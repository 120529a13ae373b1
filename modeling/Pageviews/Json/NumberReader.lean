import Pageviews.Json.Fault

/-! Reading the numbers of JSON text, which no value of this library holds. -/
namespace Pageviews.Json

/-- A number as written: its digits without the point, and the power of ten that scales them. -/
structure Number where
  digits : List Char
  exponent : Int

def natOfDigits (digits : List Char) : Nat :=
  digits.foldl (fun n c => 10 * n + (c.toNat - 48)) 0

/-- Digits, at least one; `cut` is the fault of a text that ends before them. -/
def digits (cut : Fault) (text : List Char) : Except Fault (List Char × List Char) :=
  match text.takeWhile Char.isDigit with
  | [] => .error (if text = [] then cut else .malformed)
  | taken => .ok (taken, text.dropWhile Char.isDigit)

/-- Whether a minus sign leads, and the text behind the sign. -/
def sign : List Char → Bool × List Char
  | '-' :: rest => (true, rest)
  | '+' :: rest => (false, rest)
  | rest => (false, rest)

def exponent (cut : Fault) : List Char → Except Fault (Int × List Char)
  | [] => .ok (0, [])
  | c :: rest =>
    if c = 'e' ∨ c = 'E' then
      (digits cut (sign rest).2).map fun d =>
        (if (sign rest).1 then -natOfDigits d.1 else natOfDigits d.1, d.2)
    else .ok (0, c :: rest)

/-- What may follow the whole part of a number: a fraction, then an exponent. -/
def fraction (cut : Fault) (whole text : List Char) : Except Fault (Number × List Char) :=
  match text with
  | '.' :: rest => do
    let (part, rest) ← digits cut rest
    let (power, rest) ← exponent cut rest
    return (⟨whole ++ part, power - part.length⟩, rest)
  | _ => do
    let (power, rest) ← exponent cut text
    return (⟨whole, power⟩, rest)

/-- A number without its sign; a zero in front stands alone. -/
def number (cut : Fault) (text : List Char) : Except Fault (Number × List Char) := do
  let (whole, rest) ← digits cut text
  if whole.head? = some '0' ∧ whole.length ≠ 1 then .error .malformed
  else fraction cut whole rest

theorem length_of_digits {cut : Fault} {text rest taken : List Char}
    (h : digits cut text = .ok (taken, rest)) : rest.length < text.length := by
  have hsplit := congrArg List.length (List.takeWhile_append_dropWhile (p := Char.isDigit) (l := text))
  rw [List.length_append] at hsplit
  unfold digits at h
  split at h
  · cases h
  · next taken hne =>
    have : (text.takeWhile Char.isDigit).length ≠ 0 := by
      intro hz; exact hne (List.length_eq_zero_iff.1 hz)
    cases h; omega

theorem length_sign_le (text : List Char) : (sign text).2.length ≤ text.length := by
  unfold sign
  split <;> simp

theorem length_of_exponent {cut : Fault} {text rest : List Char} {n : Int}
    (h : exponent cut text = .ok (n, rest)) : rest.length ≤ text.length := by
  unfold exponent at h
  split at h
  · cases h; exact Nat.le_refl _
  · next c tail =>
    split at h
    · cases hd : digits cut (sign tail).2 with
      | error => rw [hd] at h; cases h
      | ok r =>
        have hr := length_of_digits hd
        have hs := length_sign_le tail
        rw [hd] at h
        simp only [Except.map, Except.ok.injEq, Prod.mk.injEq] at h
        rw [← h.2]; simp only [List.length_cons]; omega
    · cases h; exact Nat.le_refl _

theorem length_of_fraction {cut : Fault} {whole text rest : List Char} {n : Number}
    (h : fraction cut whole text = .ok (n, rest)) : rest.length ≤ text.length := by
  unfold fraction at h
  split at h
  · next tail =>
    cases hd : digits cut tail with
    | error => rw [hd] at h; cases h
    | ok r =>
      have hr := length_of_digits hd
      cases he : exponent cut r.2 with
      | error => rw [hd] at h; simp only [bind, Except.bind, he] at h; cases h
      | ok s =>
        have hs := length_of_exponent he
        rw [hd] at h
        simp only [bind, Except.bind, he, pure, Except.pure, Except.ok.injEq, Prod.mk.injEq] at h
        rw [← h.2]; simp only [List.length_cons]; omega
  · cases he : exponent cut text with
    | error => rw [he] at h; cases h
    | ok s =>
      have hs := length_of_exponent he
      rw [he] at h
      simp only [bind, Except.bind, pure, Except.pure, Except.ok.injEq, Prod.mk.injEq] at h
      rw [← h.2]; exact hs

theorem length_of_number {cut : Fault} {text rest : List Char} {n : Number}
    (h : number cut text = .ok (n, rest)) : rest.length < text.length := by
  unfold number at h
  cases hd : digits cut text with
  | error => rw [hd] at h; cases h
  | ok r =>
    have hr := length_of_digits hd
    rw [hd] at h
    simp only [bind, Except.bind] at h
    split at h
    · cases h
    · have := length_of_fraction h; omega

/-- The least integer that does not round to a finite binary number of double precision. -/
def doubleBound : Nat := Nat.pow 2 1024 - Nat.pow 2 970

def Number.isTooLarge (n : Number) : Bool :=
  let value := natOfDigits n.digits
  let magnitude := (Nat.toDigits 10 value).length + n.exponent
  if value = 0 ∨ magnitude < 300 then false
  else if 320 < magnitude then true
  else match n.exponent with
    | .ofNat e => doubleBound ≤ value * Nat.pow 10 e
    | .negSucc e => doubleBound * Nat.pow 10 (e + 1) ≤ value

/-- The fault of a number where none is asked for; one too large is no number at all. -/
def faultOfNumber (text : List Char) : Fault :=
  match number .truncated text with
  | .error fault => fault
  | .ok (n, _) => if n.isTooLarge then .malformed else .mismatched

end Pageviews.Json
