import Pageviews.Json.Fault
import Pageviews.Text.Hex
import Pageviews.Text.Utf8

/-! Reading the strings of JSON text. -/
namespace Pageviews.Json

/-- The number of an escape: four hexadecimal digits. A text too short to hold them is cut off. -/
def hexEscape : List Char → Except Fault (Nat × List Char)
  | a :: b :: c :: d :: rest =>
    match Text.hexNumber? [a, b, c, d] with
    | some n => .ok (n, rest)
    | none => .error .malformed
  | text => .error (if (Text.utf8 text).length < 4 then .truncated else .malformed)

def isHighSurrogate (n : Nat) : Bool := 0xD800 ≤ n && n < 0xDC00

def isLowSurrogate (n : Nat) : Bool := 0xDC00 ≤ n && n < 0xE000

/-- The escape that has to follow a high surrogate: the character of the pair. -/
def lowEscape (high : Nat) : List Char → Except Fault (Char × List Char)
  | '\\' :: 'u' :: text => do
    let (low, rest) ← hexEscape text
    if isLowSurrogate low then
      .ok (Char.ofNat (0x10000 + (high - 0xD800) * 0x400 + (low - 0xDC00)), rest)
    else .error .malformed
  | [] | ['\\'] => .error .truncated
  | _ => .error .malformed

def shortEscape? (c : Char) : Option Char :=
  match c with
  | '"' => some '"'
  | '\\' => some '\\'
  | '/' => some '/'
  | 'b' => some '\x08'
  | 'f' => some '\x0c'
  | 'n' => some '\n'
  | 'r' => some '\r'
  | 't' => some '\t'
  | _ => none

def escape : List Char → Except Fault (Char × List Char)
  | [] => .error .truncated
  | c :: text =>
    match shortEscape? c with
    | some escaped => .ok (escaped, text)
    | none =>
      if c = 'u' then do
        let (n, rest) ← hexEscape text
        if isHighSurrogate n then lowEscape n rest
        else if isLowSurrogate n then .error .malformed
        else .ok (Char.ofNat n, rest)
      else .error .malformed

theorem length_of_hexEscape {text rest : List Char} {n : Nat}
    (h : hexEscape text = .ok (n, rest)) : rest.length < text.length := by
  unfold hexEscape at h
  split at h
  · split at h
    · cases h; simp only [List.length_cons]; omega
    · cases h
  · cases h

theorem length_of_lowEscape {high : Nat} {text rest : List Char} {c : Char}
    (h : lowEscape high text = .ok (c, rest)) : rest.length < text.length := by
  unfold lowEscape at h
  split at h
  · next text =>
    cases hx : hexEscape text with
    | error => rw [hx] at h; cases h
    | ok r =>
      have hr := length_of_hexEscape hx
      rw [hx] at h
      simp only [bind, Except.bind] at h
      split at h
      · simp only [Except.ok.injEq, Prod.mk.injEq] at h
        rw [← h.2]; simp only [List.length_cons]; omega
      · cases h
  all_goals cases h

theorem length_of_escape {text rest : List Char} {c : Char}
    (h : escape text = .ok (c, rest)) : rest.length < text.length := by
  unfold escape at h
  split at h
  · cases h
  · next d text =>
    split at h
    · cases h; simp only [List.length_cons]; omega
    · split at h
      · cases hx : hexEscape text with
        | error => rw [hx] at h; cases h
        | ok r =>
          have hr := length_of_hexEscape hx
          rw [hx] at h
          simp only [bind, Except.bind] at h
          split at h
          · have := length_of_lowEscape h; simp only [List.length_cons]; omega
          · split at h
            · cases h
            · simp only [Except.ok.injEq, Prod.mk.injEq] at h
              rw [← h.2]; simp only [List.length_cons]; omega
      · cases h

/-- The characters up to the closing quote, and the text behind it. -/
def stringBody : List Char → Except Fault (List Char × List Char)
  | [] => .error .truncated
  | c :: rest =>
    if c = '"' then .ok ([], rest)
    else if c = '\\' then
      match _h : escape rest with
      | .error fault => .error fault
      | .ok (escaped, after) => (stringBody after).map fun (body, after) => (escaped :: body, after)
    else if c.toNat < 0x20 then .error .malformed
    else (stringBody rest).map fun (body, after) => (c :: body, after)
termination_by text => text.length
decreasing_by
  · have := length_of_escape _h; simp only [List.length_cons]; omega
  · simp only [List.length_cons]; omega

def skipEscape : List Char → Except Fault (List Char)
  | [] => .error .truncated
  | 'u' :: text => (hexEscape text).map (·.2)
  | c :: rest => if (shortEscape? c).isSome then .ok rest else .error .malformed

theorem length_of_skipEscape {text rest : List Char}
    (h : skipEscape text = .ok rest) : rest.length < text.length := by
  unfold skipEscape at h
  split at h
  · cases h
  · next text =>
    cases hx : hexEscape text with
    | error => rw [hx] at h; cases h
    | ok r =>
      have hr := length_of_hexEscape hx
      rw [hx] at h
      cases h
      simp only [List.length_cons]; omega
  · split at h
    · cases h; simp only [List.length_cons]; omega
    · cases h

def skipString : List Char → Except Fault (List Char)
  | [] => .error .truncated
  | c :: rest =>
    if c = '"' then .ok rest
    else if c = '\\' then
      match _h : skipEscape rest with
      | .error fault => .error fault
      | .ok after => skipString after
    else if c.toNat < 0x20 then .error .malformed
    else skipString rest
termination_by text => text.length
decreasing_by
  · have := length_of_skipEscape _h; simp only [List.length_cons]; omega
  · simp only [List.length_cons]; omega

theorem length_of_skipString {text rest : List Char} (h : skipString text = .ok rest) :
    rest.length < text.length := by
  fun_induction skipString text with
  | case1 => cases h
  | case2 rest' => cases h; simp
  | case3 => cases h
  | case4 tail after hescape _ ih =>
    have := length_of_skipEscape hescape
    have := ih h
    simp only [List.length_cons]; omega
  | case5 => cases h
  | case6 c tail _ _ _ ih => have := ih h; simp only [List.length_cons]; omega

theorem length_of_stringBody {text rest body : List Char} (h : stringBody text = .ok (body, rest)) :
    rest.length < text.length := by
  fun_induction stringBody text generalizing body with
  | case1 => cases h
  | case2 rest' => cases h; simp
  | case3 => cases h
  | case4 tail escaped after hescape _ ih =>
    have := length_of_escape hescape
    cases hb : stringBody after with
    | error => rw [hb] at h; cases h
    | ok r =>
      rw [hb] at h
      simp only [Except.map, Except.ok.injEq, Prod.mk.injEq] at h
      have := ih (show stringBody after = .ok (r.1, rest) by rw [hb, ← h.2])
      simp only [List.length_cons]; omega
  | case5 => cases h
  | case6 c tail _ _ _ ih =>
    cases hb : stringBody tail with
    | error => rw [hb] at h; cases h
    | ok r =>
      rw [hb] at h
      simp only [Except.map, Except.ok.injEq, Prod.mk.injEq] at h
      have := ih (show stringBody tail = .ok (r.1, rest) by rw [hb, ← h.2])
      simp only [List.length_cons]; omega

end Pageviews.Json
