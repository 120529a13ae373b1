/-!
Punycode: a text beyond ASCII written with letters, digits and hyphens. The ASCII characters come
first, then one number for each other character, in order of code point, that says how many pairs of
position and code point were passed over since the last.
-/
namespace Pageviews.Domain.Punycode

/-- The digits of the numbers: letters below twenty-six, then decimal digits. -/
def digit (n : Nat) : Char := if n < 26 then Char.ofNat (97 + n) else Char.ofNat (22 + n)

def digitValue? (c : Char) : Option Nat :=
  if 'a' ≤ c ∧ c ≤ 'z' then some (c.toNat - 97)
  else if '0' ≤ c ∧ c ≤ '9' then some (c.toNat - 22)
  else none

/-- A digit below the threshold of its position ends a number. -/
def threshold (position bias : Nat) : Nat :=
  if position ≤ bias then 1 else if bias + 26 ≤ position then 26 else position - bias

theorem one_le_threshold (position bias : Nat) : 1 ≤ threshold position bias := by
  unfold threshold
  split <;> (try split) <;> omega

/-- Bring a difference into the range of the bias formula. -/
def adaptLoop (delta position : Nat) : Nat :=
  if 455 < delta then adaptLoop (delta / 35) (position + 36)
  else position + 36 * delta / (delta + 38)
termination_by delta
decreasing_by omega

/-- The bias after a number, when `count` characters are in place. -/
def adapt (delta count : Nat) (first : Bool) : Nat :=
  let scaled := if first then delta / 700 else delta / 2
  adaptLoop (scaled + scaled / count) 0

/-- The digits of a number from a position on. -/
def number (n position bias : Nat) : List Char :=
  if n < threshold position bias then [digit n]
  else
    digit (threshold position bias +
      (n - threshold position bias) % (36 - threshold position bias)) ::
    number ((n - threshold position bias) / (36 - threshold position bias)) (position + 36) bias
termination_by n
decreasing_by
  have h := one_le_threshold position bias
  exact Nat.lt_of_le_of_lt (Nat.div_le_self _ _) (by omega)

/-- The state of writing: `next` is the code point reached and `placed` counts the characters done. -/
structure Writer where
  next : Nat
  delta : Nat
  bias : Nat
  placed : Nat
  first : Bool
  written : List Char

namespace Writer

/-- Pass one character of the text on the round for the code point `point`. -/
def pass (point : Nat) (w : Writer) (c : Char) : Writer :=
  if c.toNat < point then { w with delta := w.delta + 1 }
  else if c.toNat = point then
    { w with
      delta := 0
      bias := adapt w.delta (w.placed + 1) w.first
      placed := w.placed + 1
      first := false
      written := w.written ++ number w.delta 36 w.bias }
  else w

/-- Place all occurrences of one code point. -/
def round (text : List Char) (w : Writer) (point : Nat) : Writer :=
  let reached := { w with delta := w.delta + (point - w.next) * (w.placed + 1) }
  let placed := text.foldl (pass point) reached
  { placed with delta := placed.delta + 1, next := point + 1 }

end Writer

/-- The code points of a text beyond ASCII, ascending and without repeats. -/
def points (text : List Char) : List Nat :=
  ((text.map Char.toNat).filter (0x80 ≤ ·)).mergeSort.eraseDups

/-- Write a text: its ASCII characters, a hyphen if there are any, and the numbers. -/
def encode (text : List Char) : List Char :=
  let basic := text.filter (·.toNat < 0x80)
  let start : Writer := ⟨0x80, 0, 72, basic.length, true, []⟩
  let lead := if basic = [] then [] else basic ++ ['-']
  lead ++ ((points text).foldl (Writer.round text) start).written

/-- The state of reading; `position` is that of the next digit and `begun` the number's start. -/
structure Reader where
  next : Nat
  index : Nat
  begun : Nat
  weight : Nat
  position : Nat
  bias : Nat
  first : Bool
  text : List Char

namespace Reader

/-- Put the character that a finished number stands for into its place. -/
def place (r : Reader) (index : Nat) : Option Reader :=
  let count := r.text.length + 1
  let point := r.next + index / count
  if point.isValidChar then
    some
      { next := point
        index := index % count + 1
        begun := index % count + 1
        weight := 1
        position := 36
        bias := adapt (index - r.begun) count r.first
        first := false
        text := r.text.insertIdx (index % count) (Char.ofNat point) }
  else none

def digit (r : Reader) (c : Char) : Option Reader := do
  let value ← digitValue? c
  let index := r.index + value * r.weight
  let limit := threshold r.position r.bias
  if value < limit then r.place index
  else some { r with index, weight := r.weight * (36 - limit), position := r.position + 36 }

end Reader

/-- A text at its last hyphen, which has something before it: the part before and the part after. -/
def splitLast (text : List Char) : List Char × List Char :=
  let tail := (text.reverse.takeWhile (· ≠ '-')).reverse
  let lead := (text.take (text.length - tail.length)).dropLast
  if lead = [] then ([], text) else (lead, tail)

/-- Read what `encode` writes; it fails on a foreign digit, an open number and a bad code point. -/
def decode (written : List Char) : Option (List Char) := do
  let (basic, numbers) := splitLast written
  let start : Reader := ⟨0x80, 0, 0, 1, 36, 72, true, basic⟩
  let done ← numbers.foldlM Reader.digit start
  if done.position = 36 then some done.text else none

end Pageviews.Domain.Punycode
