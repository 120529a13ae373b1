import Pageviews.Json.RecordReader

/-! Reading arrays of records. -/
namespace Pageviews.Json

theorem length_of_readMembers {names : List (List Char)} {first : Bool} {found found' : Found}
    {text rest : List Char} (h : readMembers names first found text = .ok (found', rest)) :
    rest.length < text.length := by
  fun_induction readMembers names first found text with
  | case1 => cases h
  | case2 first found text after hn => cases h; exact length_of_nextMember hn
  | case3 => cases h
  | case4 first found text after hn found'' after' hm ih =>
    have := length_of_nextMember hn
    have := length_of_readMember hm
    have := ih h
    omega

theorem length_of_nextElement {first more : Bool} {text rest : List Char}
    (h : nextElement first text = .ok (more, rest)) : rest.length ≤ text.length := by
  have hblanks := length_skipBlanks_le text
  unfold nextElement at h
  split at h
  · cases h
  · next hs => cases h; rw [hs] at hblanks; simp only [List.length_cons] at hblanks; omega
  · next c after _ hs =>
    rw [hs] at hblanks
    have htail := length_skipBlanks_le after
    split at h
    · cases h; exact hblanks
    · split at h
      · simp only [List.length_cons] at hblanks
        split at h
        · cases h
        · cases h
        · cases h; omega
      · cases h

theorem length_of_readElements {names : List (List Char)} {first : Bool} {text rest : List Char}
    {values : List (List Char)} (h : readElements names first text = .ok (values, rest)) :
    rest.length < text.length := by
  induction names generalizing first text values rest with
  | nil =>
    have hblanks := length_skipBlanks_le text
    unfold readElements at h
    split at h
    · cases h
    · next hs => cases h; rw [hs] at hblanks; simp only [List.length_cons] at hblanks; omega
    · cases h
  | cons _ names ih =>
    unfold readElements at h
    cases hn : nextElement first text with
    | error => rw [hn] at h; cases h
    | ok r =>
      have hr := length_of_nextElement hn
      rw [hn] at h
      simp only [bind, Except.bind] at h
      split at h
      · cases hs : readString r.2 with
        | error => rw [hs] at h; cases h
        | ok s =>
          have hs' := length_of_readString hs
          rw [hs] at h
          simp only at h
          cases he : readElements names false s.2 with
          | error => rw [he] at h; cases h
          | ok t =>
            have ht := ih he
            rw [he] at h
            simp only [pure, Except.pure, Except.ok.injEq, Prod.mk.injEq] at h
            rw [← h.2]; omega
      · cases h

theorem length_of_readRecord {names : List (List Char)} {text rest : List Char}
    {values : List (List Char)} (h : readRecord names text = .ok (values, rest)) :
    rest.length < text.length := by
  have hblanks := length_skipBlanks_le text
  unfold readRecord at h
  split at h
  · next after hs =>
    rw [hs] at hblanks; simp only [List.length_cons] at hblanks
    cases hm : readMembers names true [] after with
    | error => rw [hm] at h; cases h
    | ok r =>
      have hr := length_of_readMembers hm
      rw [hm] at h
      simp only [bind, Except.bind] at h
      split at h
      · simp only [pure, Except.pure, Except.ok.injEq, Prod.mk.injEq] at h
        rw [← h.2]; omega
      · cases h
  · next after hs =>
    rw [hs] at hblanks; simp only [List.length_cons] at hblanks
    have := length_of_readElements h
    omega
  · cases h

/-- The records of an array; `first` says that none has been read yet. -/
def readRecords (names : List (List Char)) (first : Bool) (text : List Char) :
    Except Fault (List (List (List Char)) × List Char) :=
  match _hn : nextElement first text with
  | .error fault => .error fault
  | .ok (false, rest) => .ok ([], rest)
  | .ok (true, rest) =>
    match _hr : readRecord names rest with
    | .error fault => .error fault
    | .ok (record, rest) =>
      (readRecords names false rest).map fun (records, rest) => (record :: records, rest)
termination_by text.length
decreasing_by
  have := length_of_nextElement _hn
  have := length_of_readRecord _hr
  omega

def readList (names : List (List Char)) (text : List Char) :
    Except Fault (List (List (List Char)) × List Char) :=
  match skipBlanks text with
  | '[' :: rest => readRecords names true rest
  | text => .error (faultOfValue text)

end Pageviews.Json
