import Pageviews.Json.NumberReader
import Pageviews.Json.StringReader

/-! Passing over the JSON values that nothing is asked of, and the faults of values of a wrong form. -/
namespace Pageviews.Json

/-- The rest of a word after its first letter. -/
def word : List Char → List Char → Except Fault (List Char)
  | [], text => .ok text
  | _ :: _, [] => .error .truncated
  | w :: expected, c :: text => if w = c then word expected text else .error .malformed

theorem length_of_word {expected text rest : List Char} (h : word expected text = .ok rest) :
    rest.length ≤ text.length := by
  induction expected generalizing text with
  | nil => cases h; exact Nat.le_refl _
  | cons w expected ih =>
    cases text with
    | nil => cases h
    | cons c text =>
      unfold word at h
      split at h
      · have := ih h; simp only [List.length_cons]; omega
      · cases h

inductive Frame where
  | array
  | object
  deriving DecidableEq

/-- What stands next in a text: a value, a member of an object, or what follows a value. -/
inductive Goal where
  | value
  | member
  | next
  deriving DecidableEq

/-- Where passing over a value goes on, and the text from there; nowhere when it is done. -/
abbrev Passed := Option (Goal × List Frame) × List Char

/-- Pass over the first character or the whole of a value. -/
def passValue (frames : List Frame) : List Char → Except Fault Passed
  | [] => .error .truncated
  | c :: rest =>
    if c = 'n' then (word ['u', 'l', 'l'] rest).map (some (.next, frames), ·)
    else if c = 't' then (word ['r', 'u', 'e'] rest).map (some (.next, frames), ·)
    else if c = 'f' then (word ['a', 'l', 's', 'e'] rest).map (some (.next, frames), ·)
    else if c = '"' then (skipString rest).map (some (.next, frames), ·)
    else if c = '-' then (number .malformed rest).map fun (_, rest) => (some (.next, frames), rest)
    else if c.isDigit then
      (number .malformed (c :: rest)).map fun (_, rest) => (some (.next, frames), rest)
    else if c = '[' then
      match skipBlanks rest with
      | [] => .error .truncated
      | ']' :: rest => .ok (some (.next, frames), rest)
      | rest => .ok (some (.value, .array :: frames), rest)
    else if c = '\x7b' then
      match skipBlanks rest with
      | [] => .error .truncated
      | '\x7d' :: rest => .ok (some (.next, frames), rest)
      | rest => .ok (some (.member, frames), rest)
    else .error .malformed

def passName (frames : List Frame) : List Char → Except Fault Passed
  | [] => .error .truncated
  | '"' :: rest => do
    match skipBlanks (← skipString rest) with
    | [] => .error .truncated
    | ':' :: rest => .ok (some (.value, .object :: frames), rest)
    | _ => .error .malformed
  | _ => .error .malformed

def passNext (frame : Frame) (outer : List Frame) : List Char → Except Fault Passed
  | [] => .error .truncated
  | ',' :: rest =>
    match frame with
    | .array => .ok (some (.value, .array :: outer), rest)
    | .object => .ok (some (.member, outer), rest)
  | ']' :: rest =>
    if frame = .array then .ok (some (.next, outer), rest) else .error .malformed
  | '\x7d' :: rest =>
    if frame = .object then .ok (some (.next, outer), rest) else .error .malformed
  | _ => .error .malformed

def pass (goal : Goal) (frames : List Frame) (text : List Char) : Except Fault Passed :=
  match goal, frames with
  | .value, frames => passValue frames (skipBlanks text)
  | .member, frames => passName frames (skipBlanks text)
  | .next, [] => .ok (none, text)
  | .next, frame :: outer => passNext frame outer (skipBlanks text)

theorem exists_of_map_eq_ok {α β : Type} {r : Except Fault α} {f : α → β} {b : β}
    (h : r.map f = .ok b) : ∃ a, r = .ok a ∧ f a = b := by
  cases r with
  | error => cases h
  | ok a => exact ⟨a, rfl, by cases h; rfl⟩

theorem length_of_passValue {frames : List Frame} {text rest : List Char}
    {next : Option (Goal × List Frame)} (h : passValue frames text = .ok (next, rest)) :
    rest.length < text.length := by
  cases text with
  | nil => cases h
  | cons c tail =>
    have hblanks := length_skipBlanks_le tail
    refine Nat.lt_succ_of_le ?_
    have hword {expected : List Char}
        (h : (word expected tail).map (some (.next, frames), ·) = .ok (next, rest)) :
        rest.length ≤ tail.length := by
      obtain ⟨a, ha, he⟩ := exists_of_map_eq_ok h
      cases he
      exact length_of_word ha
    rw [passValue] at h
    by_cases hn : c = 'n'
    · rw [if_pos hn] at h
      exact hword h
    rw [if_neg hn] at h
    by_cases ht : c = 't'
    · rw [if_pos ht] at h
      exact hword h
    rw [if_neg ht] at h
    by_cases hf : c = 'f'
    · rw [if_pos hf] at h
      exact hword h
    rw [if_neg hf] at h
    by_cases hquote : c = '"'
    · rw [if_pos hquote] at h
      obtain ⟨a, ha, he⟩ := exists_of_map_eq_ok h
      cases he
      exact Nat.le_of_lt (length_of_skipString ha)
    rw [if_neg hquote] at h
    by_cases hminus : c = '-'
    · rw [if_pos hminus] at h
      obtain ⟨a, ha, he⟩ := exists_of_map_eq_ok h
      cases he
      exact Nat.le_of_lt (length_of_number ha)
    rw [if_neg hminus] at h
    by_cases hdigit : c.isDigit
    · rw [if_pos hdigit] at h
      obtain ⟨a, ha, he⟩ := exists_of_map_eq_ok h
      cases he
      exact Nat.le_of_lt_succ (length_of_number ha)
    rw [if_neg hdigit] at h
    by_cases hbracket : c = '['
    · rw [if_pos hbracket] at h
      split at h
      · cases h
      · next hs =>
        cases h
        rw [hs] at hblanks
        exact Nat.le_of_succ_le hblanks
      · cases h
        exact hblanks
    rw [if_neg hbracket] at h
    by_cases hbrace : c = '\x7b'
    · rw [if_pos hbrace] at h
      split at h
      · cases h
      · next hs =>
        cases h
        rw [hs] at hblanks
        exact Nat.le_of_succ_le hblanks
      · cases h
        exact hblanks
    · rw [if_neg hbrace] at h
      cases h

theorem length_of_passName {frames : List Frame} {text rest : List Char}
    {next : Option (Goal × List Frame)} (h : passName frames text = .ok (next, rest)) :
    rest.length < text.length := by
  unfold passName at h
  split at h
  · cases h
  · next tail =>
    cases hs : skipString tail with
    | error => rw [hs] at h; cases h
    | ok after =>
      have hlength := length_of_skipString hs
      have hblanks := length_skipBlanks_le after
      rw [hs] at h
      simp only [bind, Except.bind] at h
      split at h
      · cases h
      · next hb => cases h; rw [hb] at hblanks; simp only [List.length_cons] at *; omega
      · cases h
  · cases h

theorem length_of_passNext {frame : Frame} {outer : List Frame} {text rest : List Char}
    {next : Option (Goal × List Frame)} (h : passNext frame outer text = .ok (next, rest)) :
    rest.length < text.length := by
  unfold passNext at h
  split at h
  · cases h
  · split at h <;> (cases h; simp)
  · split at h
    · cases h; simp
    · cases h
  · split at h
    · cases h; simp
    · cases h
  · cases h

theorem length_of_pass {goal : Goal} {frames : List Frame} {text rest : List Char}
    {next : Goal × List Frame} (h : pass goal frames text = .ok (some next, rest)) :
    rest.length < text.length := by
  have hblanks := length_skipBlanks_le text
  unfold pass at h
  split at h
  · have := length_of_passValue h; omega
  · have := length_of_passName h; omega
  · cases h
  · have := length_of_passNext h; omega

/-- Pass over what is left of a value, when `goal` stands next inside the open frames. -/
def passAll (goal : Goal) (frames : List Frame) (text : List Char) : Except Fault (List Char) :=
  match _h : pass goal frames text with
  | .error fault => .error fault
  | .ok (none, rest) => .ok rest
  | .ok (some (goal, frames), rest) => passAll goal frames rest
termination_by text.length
decreasing_by exact length_of_pass _h

def skipValue (text : List Char) : Except Fault (List Char) := passAll .value [] text

theorem length_of_passAll {goal : Goal} {frames : List Frame} {text rest : List Char}
    (h : passAll goal frames text = .ok rest) : rest.length ≤ text.length := by
  fun_induction passAll goal frames text with
  | case1 => cases h
  | case2 goal frames text after hpass =>
    cases h
    unfold pass at hpass
    split at hpass
    · have := length_of_passValue hpass; have := length_skipBlanks_le text; omega
    · have := length_of_passName hpass; have := length_skipBlanks_le text; omega
    · cases hpass; exact Nat.le_refl _
    · have := length_of_passNext hpass; have := length_skipBlanks_le text; omega
  | case3 goal frames text goal' frames' after hpass ih =>
    have := length_of_pass hpass
    have := ih h
    omega

/-- The fault of a value where another form is asked for. -/
def faultOfValue (text : List Char) : Fault :=
  match text with
  | [] => .truncated
  | c :: rest =>
    let afterWord := fun expected => match word expected rest with
      | .error fault => fault
      | .ok _ => .mismatched
    if c = 'n' then afterWord ['u', 'l', 'l']
    else if c = 't' then afterWord ['r', 'u', 'e']
    else if c = 'f' then afterWord ['a', 'l', 's', 'e']
    else if c = '"' then match stringBody rest with
      | .error fault => fault
      | .ok _ => .mismatched
    else if c = '-' then faultOfNumber rest
    else if c.isDigit then faultOfNumber text
    else if c = '[' ∨ c = '\x7b' then .mismatched
    else .malformed

def readString (text : List Char) : Except Fault (List Char × List Char) :=
  match skipBlanks text with
  | '"' :: rest => stringBody rest
  | text => .error (faultOfValue text)

theorem length_of_readString {text rest body : List Char}
    (h : readString text = .ok (body, rest)) : rest.length < text.length := by
  have hblanks := length_skipBlanks_le text
  unfold readString at h
  split at h
  · next hs =>
    have := length_of_stringBody h
    rw [hs] at hblanks; simp only [List.length_cons] at hblanks; omega
  · cases h

/-- The only value of a text, by the reader of its form. -/
def readAll {α : Type} (reader : List Char → Except Fault (α × List Char)) (text : List Char) :
    Except Fault α := do
  let (value, rest) ← reader text
  if skipBlanks rest = [] then .ok value else .error .malformed

end Pageviews.Json
