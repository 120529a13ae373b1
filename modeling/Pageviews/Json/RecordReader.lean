import Pageviews.Json.ValueReader

/-!
Reading records: values with named strings, written as an object or as an array in the order of the
names. An object holds each name once; its other members are passed over.
-/
namespace Pageviews.Json

abbrev Found := List (List Char × List Char)

/-- The text behind the colon that follows a name. -/
def colon (text : List Char) : Except Fault (List Char) :=
  match skipBlanks text with
  | [] => .error .truncated
  | ':' :: rest => .ok rest
  | _ => .error .malformed

theorem length_of_colon {text rest : List Char} (h : colon text = .ok rest) :
    rest.length < text.length := by
  have hblanks := length_skipBlanks_le text
  unfold colon at h
  split at h
  · cases h
  · next hs => cases h; rw [hs] at hblanks; simp only [List.length_cons] at hblanks; omega
  · cases h

/-- The value of a member, kept if its name is asked for. -/
def readMemberValue (names : List (List Char)) (name : List Char) (found : Found)
    (text : List Char) : Except Fault (Found × List Char) :=
  if names.contains name then
    if (found.lookup name).isSome then .error .mismatched
    else do
      let (value, rest) ← readString (← colon text)
      return ((name, value) :: found, rest)
  else do
    let rest ← skipValue (← colon text)
    return (found, rest)

/-- A member, from behind the quote that opens its name. -/
def readMember (names : List (List Char)) (found : Found) (text : List Char) :
    Except Fault (Found × List Char) := do
  let (name, rest) ← stringBody text
  readMemberValue names name found rest

/-- The text behind the quote of the next member's name, or behind the end of the object. -/
def nextMember (first : Bool) (text : List Char) : Except Fault (Bool × List Char) :=
  match skipBlanks text with
  | [] => .error .truncated
  | '\x7d' :: rest => .ok (false, rest)
  | '"' :: rest => if first then .ok (true, rest) else .error .malformed
  | ',' :: rest =>
    if first then .error .malformed
    else match skipBlanks rest with
      | [] => .error .truncated
      | '"' :: rest => .ok (true, rest)
      | _ => .error .malformed
  | _ => .error .malformed

theorem length_of_readMemberValue {names : List (List Char)} {name : List Char}
    {found found' : Found} {text rest : List Char}
    (h : readMemberValue names name found text = .ok (found', rest)) :
    rest.length < text.length := by
  unfold readMemberValue at h
  split at h
  · split at h
    · cases h
    · cases hc : colon text with
      | error => rw [hc] at h; cases h
      | ok after =>
        have := length_of_colon hc
        cases hs : readString after with
        | error => rw [hc] at h; simp only [bind, Except.bind, hs] at h; cases h
        | ok r =>
          have := length_of_readString hs
          rw [hc] at h
          simp only [bind, Except.bind, hs, pure, Except.pure, Except.ok.injEq, Prod.mk.injEq] at h
          rw [← h.2]; omega
  · cases hc : colon text with
    | error => rw [hc] at h; cases h
    | ok after =>
      have := length_of_colon hc
      cases hs : skipValue after with
      | error => rw [hc] at h; simp only [bind, Except.bind, hs] at h; cases h
      | ok r =>
        have := length_of_passAll hs
        rw [hc] at h
        simp only [bind, Except.bind, hs, pure, Except.pure, Except.ok.injEq, Prod.mk.injEq] at h
        rw [← h.2]; omega

theorem length_of_readMember {names : List (List Char)} {found found' : Found}
    {text rest : List Char} (h : readMember names found text = .ok (found', rest)) :
    rest.length < text.length := by
  unfold readMember at h
  cases hb : stringBody text with
  | error => rw [hb] at h; cases h
  | ok r =>
    have := length_of_stringBody hb
    rw [hb] at h
    have := length_of_readMemberValue h
    omega

theorem length_of_nextMember {first more : Bool} {text rest : List Char}
    (h : nextMember first text = .ok (more, rest)) : rest.length < text.length := by
  have hblanks := length_skipBlanks_le text
  unfold nextMember at h
  split at h
  · cases h
  · next hs => cases h; rw [hs] at hblanks; simp only [List.length_cons] at hblanks; omega
  · next hs =>
    split at h
    · cases h; rw [hs] at hblanks; simp only [List.length_cons] at hblanks; omega
    · cases h
  · next after hs =>
    rw [hs] at hblanks
    have htail := length_skipBlanks_le after
    simp only [List.length_cons] at hblanks
    split at h
    · cases h
    · split at h
      · cases h
      · next ht => cases h; rw [ht] at htail; simp only [List.length_cons] at htail; omega
      · cases h
  · cases h

def readMembers (names : List (List Char)) (first : Bool) (found : Found) (text : List Char) :
    Except Fault (Found × List Char) :=
  match _hn : nextMember first text with
  | .error fault => .error fault
  | .ok (false, rest) => .ok (found, rest)
  | .ok (true, rest) =>
    match _hm : readMember names found rest with
    | .error fault => .error fault
    | .ok (found, rest) => readMembers names false found rest
termination_by text.length
decreasing_by
  have := length_of_nextMember _hn
  have := length_of_readMember _hm
  omega

def nextElement (first : Bool) (text : List Char) : Except Fault (Bool × List Char) :=
  match skipBlanks text with
  | [] => .error .truncated
  | ']' :: rest => .ok (false, rest)
  | c :: rest =>
    if first then .ok (true, c :: rest)
    else if c = ',' then
      match skipBlanks rest with
      | [] => .error .truncated
      | ']' :: _ => .error .malformed
      | rest => .ok (true, rest)
    else .error .malformed

/-- An array of strings, one for each name; `first` says that no element has been read yet. -/
def readElements (names : List (List Char)) (first : Bool) (text : List Char) :
    Except Fault (List (List Char) × List Char) :=
  match names with
  | [] =>
    match skipBlanks text with
    | [] => .error .truncated
    | ']' :: rest => .ok ([], rest)
    | _ => .error .malformed
  | _ :: names => do
    let (more, rest) ← nextElement first text
    if more then
      let (value, rest) ← readString rest
      let (values, rest) ← readElements names false rest
      return (value :: values, rest)
    else .error .mismatched

/-- A record: the strings of its names, in the order of the names. -/
def readRecord (names : List (List Char)) (text : List Char) :
    Except Fault (List (List Char) × List Char) :=
  match skipBlanks text with
  | '\x7b' :: rest => do
    let (found, rest) ← readMembers names true [] rest
    match names.mapM (found.lookup ·) with
    | some values => return (values, rest)
    | none => .error .mismatched
  | '[' :: rest => readElements names true rest
  | text => .error (faultOfValue text)

end Pageviews.Json
