/-! Text as bytes in UTF-8. -/
namespace Pageviews.Text

def utf8 (text : List Char) : List UInt8 := text.flatMap String.utf8EncodeChar

/-- The six bits that a byte adds to a character, if it continues one. -/
def continuation? (b : UInt8) : Option Nat :=
  if 0x80 ≤ b ∧ b < 0xC0 then some (b.toNat - 0x80) else none

/-- The character of a number, unless a shorter sequence could hold it or there is none. -/
def charFrom? (least n : Nat) : Option Char :=
  if least ≤ n ∧ n.isValidChar then some (Char.ofNat n) else none

def ofUtf8? : List UInt8 → Option (List Char)
  | [] => some []
  | a :: rest =>
    if a < 0x80 then (ofUtf8? rest).map (Char.ofNat a.toNat :: ·)
    else if 0xC0 ≤ a ∧ a < 0xE0 then
      match rest with
      | b :: rest => do
        let c ← charFrom? 0x80 ((a.toNat - 0xC0) * 0x40 + (← continuation? b))
        return c :: (← ofUtf8? rest)
      | _ => none
    else if 0xE0 ≤ a ∧ a < 0xF0 then
      match rest with
      | b :: d :: rest => do
        let c ← charFrom? 0x800
          ((a.toNat - 0xE0) * 0x1000 + (← continuation? b) * 0x40 + (← continuation? d))
        return c :: (← ofUtf8? rest)
      | _ => none
    else if 0xF0 ≤ a then
      match rest with
      | b :: d :: e :: rest => do
        let c ← charFrom? 0x10000
          ((a.toNat - 0xF0) * 0x40000 + (← continuation? b) * 0x1000 +
            (← continuation? d) * 0x40 + (← continuation? e))
        return c :: (← ofUtf8? rest)
      | _ => none
    else none

end Pageviews.Text
