import Pageviews.Proofs.Fallible
import Pageviews.Proofs.Json.Records
import Pageviews.Proofs.Json.Values

/-! Which texts hold a record. Main statement: those that the grammar names, and no others. -/
namespace Pageviews.Json

variable {text tail rest after : List Char} {c closing : Char} {first : Bool}
  {names parts : List (List Char)} {found found' : Found} {label chars : List Char}

/-- The parts of which some have been read stand behind a comma each, and the first one does not. -/
def Introduced (first : Bool) (text tail : List Char) : Prop :=
  if first then text = tail else ∃ blanks, Blank blanks ∧ text = blanks ++ ',' :: tail

/-- The parts that remain and the bracket behind them; `first` says that none has been read. -/
def Remaining (first : Bool) (closing : Char) (parts : List (List Char)) (text rest : List Char) :
    Prop :=
  match parts with
  | [] => ∃ blanks, Blank blanks ∧ text = blanks ++ closing :: rest
  | part :: parts =>
    Introduced first text (part ++ (parts.flatMap (',' :: ·) ++ closing :: rest))

theorem remaining_false_iff : Remaining false closing parts text rest ↔
    Further closing parts text rest := by
  cases parts with
  | nil => exact Iff.rfl
  | cons part parts => simp [Remaining, Introduced, Further]

theorem remaining_true_iff (opening : Char) : Remaining true closing parts text rest ↔
    ∃ whole, Enclosed opening closing parts whole ∧ opening :: text = whole ++ rest := by
  cases parts with
  | nil => simp [Remaining, enclosed_nil_iff]
  | cons part parts => simp [Remaining, Introduced, enclosed_cons_iff]

theorem nextMember_eq_false_iff : nextMember first text = .ok (false, rest) ↔
    ∃ blanks, Blank blanks ∧ text = blanks ++ '\x7d' :: rest := by
  rw [← skipBlanks_eq_cons_iff rfl]
  constructor
  · intro h
    unfold nextMember at h
    split at h
    · cases h
    · next hskip =>
      cases h
      exact hskip
    · split at h <;> cases h
    · split at h
      · cases h
      · split at h <;> cases h
    · cases h
  · intro h
    simp [nextMember, h]

theorem nextMember_eq_true_iff : nextMember first text = .ok (true, rest) ↔
    ∃ before, Blank before ∧ Introduced first text (before ++ '"' :: rest) := by
  constructor
  · intro h
    unfold nextMember at h
    split at h
    · cases h
    · cases h
    · next hskip =>
      split at h
      · next hfirst =>
        cases h
        obtain ⟨before, hbefore, rfl⟩ := (skipBlanks_eq_cons_iff rfl).mp hskip
        exact ⟨before, hbefore, by rw [hfirst]; rfl⟩
      · cases h
    · next hskip =>
      obtain ⟨blanks, hblank, rfl⟩ := (skipBlanks_eq_cons_iff rfl).mp hskip
      split at h
      · cases h
      · next hfirst =>
        split at h
        · cases h
        · next hquote =>
          cases h
          obtain ⟨before, hbefore, rfl⟩ := (skipBlanks_eq_cons_iff rfl).mp hquote
          rw [Bool.not_eq_true] at hfirst
          exact ⟨before, hbefore, by rw [hfirst]; exact ⟨blanks, hblank, rfl⟩⟩
        · cases h
    · cases h
  · rintro ⟨before, hbefore, h⟩
    have hquote : skipBlanks (before ++ '"' :: rest) = '"' :: rest :=
      (skipBlanks_eq_cons_iff rfl).mpr ⟨before, hbefore, rfl⟩
    cases first with
    | true =>
      cases h
      simp [nextMember, hquote]
    | false =>
      obtain ⟨blanks, hblank, rfl⟩ := h
      have hcomma : skipBlanks (blanks ++ ',' :: (before ++ '"' :: rest)) =
          ',' :: (before ++ '"' :: rest) := (skipBlanks_eq_cons_iff rfl).mpr ⟨blanks, hblank, rfl⟩
      simp [nextMember, hcomma, hquote]

theorem colon_eq_ok_iff : colon text = .ok rest ↔
    ∃ gap, Blank gap ∧ text = gap ++ ':' :: rest := by
  rw [← skipBlanks_eq_cons_iff rfl]
  constructor
  · intro h
    unfold colon at h
    split at h
    · cases h
    · next hskip =>
      cases h
      exact hskip
    · cases h
  · intro h
    simp [colon, h]

/-- What is found in a member with this name and value, if it may stand there. -/
inductive Adds (names : List (List Char)) (found : Found) (label inner : List Char) :
    Found → Prop where
  | known {chars : List Char} (hname : label ∈ names) (hnew : found.lookup label = none)
      (h : Says inner chars) : Adds names found label inner ((label, chars) :: found)
  | other (hname : label ∉ names) (h : IsValue inner) : Adds names found label inner found

theorem readMemberValue_eq_ok_iff (hend : EndsNumber rest) :
    readMemberValue names label found text = .ok (found', rest) ↔
      ∃ gap left inner, Blank gap ∧ Blank left ∧ Adds names found label inner found' ∧
        text = gap ++ ':' :: (left ++ (inner ++ rest)) := by
  constructor
  · intro h
    unfold readMemberValue at h
    split at h
    · next hname =>
      split at h
      · cases h
      · next hnew =>
        obtain ⟨tail, hcolon, h⟩ := bind_eq_ok_iff.mp h
        obtain ⟨⟨chars, last⟩, hread, h⟩ := bind_eq_ok_iff.mp h
        cases h
        obtain ⟨gap, hgap, rfl⟩ := colon_eq_ok_iff.mp hcolon
        obtain ⟨left, inner, hleft, hsays, rfl⟩ := exists_of_readString hread
        rw [Option.not_isSome_iff_eq_none] at hnew
        exact ⟨gap, left, inner, hgap, hleft, .known (by simpa using hname) hnew hsays, rfl⟩
    · next hname =>
      obtain ⟨tail, hcolon, h⟩ := bind_eq_ok_iff.mp h
      obtain ⟨last, hskip, h⟩ := bind_eq_ok_iff.mp h
      cases h
      obtain ⟨gap, hgap, rfl⟩ := colon_eq_ok_iff.mp hcolon
      obtain ⟨left, inner, hleft, hvalue, rfl⟩ := (skipValue_eq_ok_iff hend).mp hskip
      exact ⟨gap, left, inner, hgap, hleft, .other (by simpa using hname) hvalue, rfl⟩
  · rintro ⟨gap, left, inner, hgap, hleft, hadds, rfl⟩
    have hcolon : colon (gap ++ ':' :: (left ++ (inner ++ rest))) = .ok (left ++ (inner ++ rest)) :=
      colon_eq_ok_iff.mpr ⟨gap, hgap, rfl⟩
    cases hadds with
    | @known chars hname hnew hsays =>
      simp [readMemberValue, hname, hnew, hcolon, readString_append hleft hsays, bind, Except.bind,
        pure, Except.pure]
    | other hname hvalue =>
      have hskip := (skipValue_eq_ok_iff hend).mpr ⟨left, inner, hleft, hvalue, rfl⟩
      simp [readMemberValue, hname, hcolon, hskip, bind, Except.bind, pure, Except.pure]

/-- What is found in one member after the other. -/
inductive Collects (names : List (List Char)) : Found → List Labelled → Found → Prop where
  | nil {found : Found} : Collects names found [] found
  | cons {found found' found'' : Found} {m : Labelled} {members : List Labelled}
      (h : Adds names found m.label m.value.inner found')
      (ht : Collects names found' members found'') : Collects names found (m :: members) found''

theorem readMembers_eq_ok_iff : readMembers names first found text = .ok (found', rest) ↔
    ∃ members : List Labelled, Collects names found members found' ∧
      Remaining first '\x7d' (members.map (·.text)) text rest := by
  constructor
  · intro h
    fun_induction readMembers names first found text with
    | case1 => cases h
    | case2 first found text after hnext =>
      cases h
      exact ⟨[], .nil, nextMember_eq_false_iff.mp hnext⟩
    | case3 => cases h
    | case4 first found text after hnext found'' last hmember ih =>
      obtain ⟨members, hcollects, hremaining⟩ := ih h
      have hfurther := remaining_false_iff.mp hremaining
      have hend : EndsNumber last := by
        obtain ⟨right, hright, rfl⟩ := hfurther
        exact endsNumber_further _ rest (.inr rfl) hright
      obtain ⟨⟨label, tail⟩, hbody, hvalue⟩ := bind_eq_ok_iff.mp hmember
      obtain ⟨name, hspells, rfl⟩ := exists_of_stringBody hbody
      rw [readMemberValue_eq_ok_iff hend] at hvalue
      obtain ⟨gap, left, inner, hgap, hleft, hadds, rfl⟩ := hvalue
      obtain ⟨s, rfl, hs⟩ := hfurther.exists_slot hleft inner
      obtain ⟨before, hbefore, hintroduced⟩ := nextMember_eq_true_iff.mp hnext
      let m : Labelled :=
        { before, name, gap, value := s, before_blank := hbefore, gap_blank := hgap, label
          spells := hspells }
      refine ⟨m :: members, .cons hadds hcollects, ?_⟩
      have htext : before ++ '"' :: (name ++ '"' :: (gap ++ ':' :: (left ++ (s.inner ++ last)))) =
          m.text ++ ((members.map (·.text)).flatMap (',' :: ·) ++ '\x7d' :: rest) := by
        simp [hs, m, Entry.text, quoted]
      rw [htext] at hintroduced
      exact hintroduced
  · rintro ⟨members, hcollects, hremaining⟩
    induction hcollects generalizing first text with
    | nil => exact readMembers_of_end (nextMember_eq_false_iff.mpr hremaining)
    | @cons found found'' found' m members hadds _ ih =>
      let later := (members.map (·.text)).flatMap (',' :: ·) ++ '\x7d' :: rest
      let after := m.gap ++ ':' :: (m.value.left ++ (m.value.inner ++ (m.value.right ++ later)))
      have hend : EndsNumber (m.value.right ++ later) :=
        endsNumber_further _ rest (.inr rfl) m.value.right_blank
      have htext : m.text ++ later = m.before ++ '"' :: (m.name ++ '"' :: after) := by
        simp [Entry.text, Slot.text, quoted, after]
      have hintroduced : Introduced first text (m.text ++ later) := hremaining
      rw [htext] at hintroduced
      have hnext := nextMember_eq_true_iff.mpr ⟨m.before, m.before_blank, hintroduced⟩
      have hmember : readMember names found (m.name ++ '"' :: after) =
          .ok (found'', m.value.right ++ later) := by
        refine bind_eq_ok_iff.mpr ⟨(m.label, after), ?_, ?_⟩
        · exact stringBody_append m.spells after
        · exact (readMemberValue_eq_ok_iff hend).mpr
            ⟨m.gap, m.value.left, m.value.inner, m.gap_blank, m.value.left_blank, hadds, rfl⟩
      rw [readMembers_of_member hnext hmember]
      exact ih (remaining_false_iff.mpr ⟨m.value.right, m.value.right_blank, rfl⟩)

def named (name : List Char) (members : List Labelled) : List Labelled :=
  members.filter (·.label = name)

theorem Says.isValue {inner : List Char} (h : Says inner chars) : IsValue inner := by
  obtain ⟨h⟩ := h
  exact .string h.marks

/-- A string says one thing only, as it is read in one way. -/
theorem Says.unique {inner others : List Char} (h : Says inner chars) (h' : Says inner others) :
    chars = others := by
  have hblank : Blank [] := List.forall_mem_nil _
  have heq := readString_append hblank h []
  rw [readString_append hblank h'] at heq
  cases heq
  rfl

variable {members : List Labelled} {name : List Char}

theorem Collects.isValue (h : Collects names found members found') :
    ∀ m ∈ members, IsValue m.value.inner := by
  induction h with
  | nil => exact nofun
  | cons h _ ih =>
    refine List.forall_mem_cons.mpr ⟨?_, ih⟩
    cases h with
    | known _ _ hsays => exact hsays.isValue
    | other _ hvalue => exact hvalue

/-- What is found by a name was found before, or in the one member of this name. -/
theorem Collects.lookup_cases (h : Collects names found members found') (hname : name ∈ names) :
    (found'.lookup name = found.lookup name ∧ named name members = []) ∨
      found.lookup name = none ∧ ∃ m chars, named name members = [m] ∧ Says m.value.inner chars ∧
        found'.lookup name = some chars := by
  induction h with
  | nil => exact .inl ⟨rfl, rfl⟩
  | @cons found found'' found' m members hadds _ ih =>
    by_cases hlabel : m.label = name
    · subst hlabel
      cases hadds with
      | @known chars _ hnew hsays =>
        refine .inr ⟨hnew, m, chars, ?_⟩
        rw [List.lookup_cons_self] at ih
        rcases ih with ⟨hsame, hnone⟩ | ⟨hnone, -⟩
        · rw [named, List.filter_cons_of_pos (by simp)]
          exact ⟨by rw [← hnone]; rfl, hsays, hsame⟩
        · cases hnone
      | other hnot => exact absurd hname hnot
    · have hnamed : named name (m :: members) = named name members :=
        List.filter_cons_of_neg (by simpa using hlabel)
      have hlookup : found''.lookup name = found.lookup name := by
        cases hadds with
        | known => rw [List.lookup_cons, beq_false_of_ne (Ne.symm hlabel)]
        | other => rfl
      rw [hnamed, ← hlookup]
      exact ih

theorem Collects.lookup_eq_some_iff (h : Collects names [] members found') (hname : name ∈ names) :
    found'.lookup name = some chars ↔ Holds members name chars := by
  rcases h.lookup_cases hname with ⟨hnone, hempty⟩ | ⟨-, m, others, hone, hsays, hsome⟩
  · constructor
    · intro hsome
      rw [hnone] at hsome
      cases hsome
    · rintro ⟨m, hone, -⟩
      rw [named, hone] at hempty
      cases hempty
  · constructor
    · intro hchars
      rw [hsome, Option.some.injEq] at hchars
      exact ⟨m, hone, hchars ▸ hsays⟩
    · rintro ⟨m', hone', hsays'⟩
      rw [named, hone'] at hone
      cases hone
      rw [hsome, hsays.unique hsays']

/-- Members that are values can be read one after the other, if each name that is asked for is found
no more than once, and then as a string. -/
theorem exists_collects (hvalue : ∀ m ∈ members, IsValue m.value.inner)
    (h : ∀ name ∈ names, named name members = [] ∨
      found.lookup name = none ∧ ∃ chars, Holds members name chars) :
    ∃ found', Collects names found members found' := by
  induction members generalizing found with
  | nil => exact ⟨found, .nil⟩
  | cons m members ih =>
    rw [List.forall_mem_cons] at hvalue
    have hother {name : List Char} (hne : m.label ≠ name) :
        named name (m :: members) = named name members :=
      List.filter_cons_of_neg (by simpa using hne)
    have hlater {name : List Char} (hname : name ∈ names) (hne : m.label ≠ name) :
        named name members = [] ∨
          found.lookup name = none ∧ ∃ chars, Holds members name chars := by
      have hcase := h name hname
      simp only [Holds, ← named.eq_def, hother hne] at hcase ⊢
      exact hcase
    by_cases hlabel : m.label ∈ names
    · have hself : named m.label (m :: members) = m :: named m.label members :=
        List.filter_cons_of_pos (by simp)
      obtain ⟨hnew, chars, m', hone, hsays⟩ := (h m.label hlabel).resolve_left (by simp [hself])
      rw [← named, hself, List.cons.injEq] at hone
      obtain ⟨rfl, hnone⟩ := hone
      have hrest : ∀ name ∈ names, named name members = [] ∨
          List.lookup name ((m.label, chars) :: found) = none ∧
            ∃ chars, Holds members name chars := by
        intro name hname
        by_cases hne : m.label = name
        · exact .inl (hne ▸ hnone)
        · rw [List.lookup_cons, beq_false_of_ne (Ne.symm hne)]
          exact hlater hname hne
      obtain ⟨found', hcollects⟩ := ih hvalue.2 hrest
      exact ⟨found', .cons (.known hlabel hnew hsays) hcollects⟩
    · obtain ⟨found', hcollects⟩ :=
        ih hvalue.2 fun name hname => hlater hname (by rintro rfl; exact hlabel hname)
      exact ⟨found', .cons (.other hlabel hvalue.1) hcollects⟩

theorem forall₂_congr {α β : Type} {R S : α → β → Prop} {list : List α} {images : List β}
    (h : ∀ x ∈ list, ∀ y, R x y ↔ S x y) :
    List.Forall₂ R list images ↔ List.Forall₂ S list images := by
  simp only [List.forall₂_iff_zip]
  refine and_congr_right fun _ => ⟨fun hr x y hmem => ?_, fun hs x y hmem => ?_⟩
  · exact (h x (List.of_mem_zip hmem).1 y).mp (hr hmem)
  · exact (h x (List.of_mem_zip hmem).1 y).mpr (hs hmem)

/-- The members from which the strings of all names are found. -/
theorem exists_collects_iff {strings : List (List Char)} :
    (∃ found, Collects names [] members found ∧ names.mapM (found.lookup ·) = some strings) ↔
      (∀ m ∈ members, IsValue m.value.inner) ∧ List.Forall₂ (Holds members) names strings := by
  have hlookup {found : Found} (h : Collects names [] members found) :
      names.mapM (found.lookup ·) = some strings ↔
        List.Forall₂ (Holds members) names strings :=
    mapM_eq_some_iff.trans (forall₂_congr fun name hname chars => h.lookup_eq_some_iff hname)
  constructor
  · rintro ⟨found, hcollects, hstrings⟩
    exact ⟨hcollects.isValue, (hlookup hcollects).mp hstrings⟩
  · rintro ⟨hvalue, hholds⟩
    have hall : ∀ name ∈ names, ∃ chars, Holds members name chars := by
      clear hlookup
      induction hholds with
      | nil => exact nofun
      | cons h _ ih => exact List.forall_mem_cons.mpr ⟨⟨_, h⟩, ih⟩
    obtain ⟨found, hcollects⟩ :=
      exists_collects hvalue fun name hname => .inr ⟨List.lookup_nil, hall name hname⟩
    exact ⟨found, hcollects, (hlookup hcollects).mpr hholds⟩

theorem exists_of_nextElement (h : nextElement first text = .ok (true, after)) :
    ∃ tail, Introduced first text tail ∧ after = skipBlanks tail := by
  unfold nextElement at h
  split at h
  · cases h
  · cases h
  · next c tail hbracket hskip =>
    split at h
    · next hfirst =>
      cases h
      exact ⟨text, by rw [hfirst]; rfl, hskip.symm⟩
    · next hfirst =>
      rw [Bool.not_eq_true] at hfirst
      split at h
      · next hcomma =>
        rw [hcomma] at hskip
        obtain ⟨blanks, hblank, rfl⟩ := (skipBlanks_eq_cons_iff rfl).mp hskip
        split at h
        · cases h
        · cases h
        · cases h
          exact ⟨tail, by rw [hfirst]; exact ⟨blanks, hblank, rfl⟩, rfl⟩
      · cases h

theorem nextElement_of_introduced (h : Introduced first text tail)
    (hskip : skipBlanks tail = c :: rest) (hbracket : c ≠ ']') :
    nextElement first text = .ok (true, c :: rest) := by
  cases first with
  | true =>
    cases h
    simp [nextElement, hskip]
  | false =>
    obtain ⟨blanks, hblank, rfl⟩ := h
    have hcomma : skipBlanks (blanks ++ ',' :: tail) = ',' :: tail :=
      (skipBlanks_eq_cons_iff rfl).mpr ⟨blanks, hblank, rfl⟩
    simp [nextElement, hcomma, hskip, hbracket]

theorem readElements_eq_ok_iff {values : List (List Char)} :
    readElements names first text = .ok (values, rest) ↔ ∃ elements : List Slot,
      elements.length = names.length ∧ List.Forall₂ (Says ·.inner) elements values ∧
        Remaining first ']' (elements.map Slot.text) text rest := by
  induction names generalizing first text values with
  | nil =>
    constructor
    · intro h
      unfold readElements at h
      split at h
      · cases h
      · next hskip =>
        cases h
        exact ⟨[], rfl, .nil, (skipBlanks_eq_cons_iff rfl).mp hskip⟩
      · cases h
    · rintro ⟨elements, hlength, hsays, hremaining⟩
      rw [List.length_nil, List.length_eq_zero_iff] at hlength
      subst hlength
      cases hsays
      have hskip := (skipBlanks_eq_cons_iff rfl).mpr hremaining
      simp [readElements, hskip]
  | cons name names ih =>
    constructor
    · intro h
      obtain ⟨⟨more, after⟩, hnext, h⟩ := bind_eq_ok_iff.mp h
      cases more with
      | false => cases h
      | true =>
        obtain ⟨⟨chars, last⟩, hread, h⟩ := bind_eq_ok_iff.mp h
        obtain ⟨⟨others, last'⟩, hothers, h⟩ := bind_eq_ok_iff.mp h
        cases h
        obtain ⟨tail, hintroduced, rfl⟩ := exists_of_nextElement hnext
        obtain ⟨elements, hlength, hsays, hremaining⟩ := ih.mp hothers
        obtain ⟨left, inner, hleft, hfirst, hskip⟩ := exists_of_readString hread
        obtain ⟨blanks, hblank, htail⟩ := exists_blank tail
        obtain ⟨s, rfl, htext⟩ :=
          (remaining_false_iff.mp hremaining).exists_slot (hblank.append hleft) inner
        rw [hskip, ← List.append_assoc, htext] at htail
        rw [htail] at hintroduced
        exact ⟨s :: elements, by simp [hlength], .cons hfirst hsays, hintroduced⟩
    · rintro ⟨elements, hlength, hsays, hremaining⟩
      cases hsays with
      | nil => cases hlength
      | @cons e chars elements others hfirst hsays =>
        let later := (elements.map Slot.text).flatMap (',' :: ·) ++ ']' :: rest
        have hintroduced : Introduced first text (e.text ++ later) := hremaining
        obtain ⟨tail, hquote⟩ : ∃ tail, e.inner ++ (e.right ++ later) = '"' :: tail := by
          generalize e.inner = inner at hfirst
          cases hfirst
          exact ⟨_, rfl⟩
        have hskip : skipBlanks (e.text ++ later) = '"' :: tail := by
          rw [Slot.text, List.append_assoc, List.append_assoc, skipBlanks_append e.left_blank,
            hquote, skipBlanks_cons rfl]
        have hread : readString ('"' :: tail) = .ok (chars, e.right ++ later) :=
          hquote ▸ readString_append (List.forall_mem_nil _) hfirst _
        have hothers : readElements names false (e.right ++ later) = .ok (others, rest) :=
          ih.mpr ⟨elements, by simpa using hlength, hsays,
            remaining_false_iff.mpr ⟨e.right, e.right_blank, rfl⟩⟩
        refine bind_eq_ok_iff.mpr ⟨_, nextElement_of_introduced hintroduced hskip (by decide), ?_⟩
        exact bind_eq_ok_iff.mpr ⟨_, hread, bind_eq_ok_iff.mpr ⟨_, hothers, rfl⟩⟩

/-- A record is read from a text that holds one, with blanks in front. -/
theorem readRecord_eq_ok_iff {strings : List (List Char)} :
    readRecord names text = .ok (strings, rest) ↔
      ∃ left inner, Blank left ∧ IsRecord names strings inner ∧ text = left ++ (inner ++ rest) := by
  constructor
  · intro h
    unfold readRecord at h
    split at h
    · next tail hskip =>
      obtain ⟨left, hleft, rfl⟩ := (skipBlanks_eq_cons_iff rfl).mp hskip
      obtain ⟨⟨found, last⟩, hmembers, h⟩ := bind_eq_ok_iff.mp h
      dsimp only at h
      split at h
      · next hlookup =>
        cases h
        obtain ⟨members, hcollects, hremaining⟩ := readMembers_eq_ok_iff.mp hmembers
        obtain ⟨hvalue, hholds⟩ := exists_collects_iff.mp ⟨found, hcollects, hlookup⟩
        obtain ⟨inner, henclosed, htext⟩ := (remaining_true_iff '\x7b').mp hremaining
        exact ⟨left, inner, hleft, .object hvalue henclosed hholds, by rw [htext]⟩
      · cases h
    · next tail hskip =>
      obtain ⟨left, hleft, rfl⟩ := (skipBlanks_eq_cons_iff rfl).mp hskip
      obtain ⟨elements, hlength, hsays, hremaining⟩ := readElements_eq_ok_iff.mp h
      obtain ⟨inner, henclosed, htext⟩ := (remaining_true_iff '[').mp hremaining
      exact ⟨left, inner, hleft, .array hlength henclosed hsays, by rw [htext]⟩
    · cases h
  · rintro ⟨left, inner, hleft, hrecord, rfl⟩
    cases hrecord with
    | object hvalue henclosed hholds =>
      obtain ⟨found, hcollects, hlookup⟩ := exists_collects_iff.mpr ⟨hvalue, hholds⟩
      obtain ⟨tail, rfl⟩ := henclosed.exists_cons
      have hmembers : readMembers names true [] (tail ++ rest) = .ok (found, rest) :=
        readMembers_eq_ok_iff.mpr
          ⟨_, hcollects, (remaining_true_iff '\x7b').mpr ⟨_, henclosed, rfl⟩⟩
      have hskip : skipBlanks (left ++ '\x7b' :: (tail ++ rest)) = '\x7b' :: (tail ++ rest) :=
        (skipBlanks_eq_cons_iff rfl).mpr ⟨left, hleft, rfl⟩
      simp [readRecord, hskip, hmembers, hlookup, bind, Except.bind, pure, Except.pure]
    | array hlength henclosed hsays =>
      obtain ⟨tail, rfl⟩ := henclosed.exists_cons
      have helements : readElements names true (tail ++ rest) = .ok (strings, rest) :=
        readElements_eq_ok_iff.mpr
          ⟨_, hlength, hsays, (remaining_true_iff '[').mpr ⟨_, henclosed, rfl⟩⟩
      have hskip : skipBlanks (left ++ '[' :: (tail ++ rest)) = '[' :: (tail ++ rest) :=
        (skipBlanks_eq_cons_iff rfl).mpr ⟨left, hleft, rfl⟩
      simp [readRecord, hskip, helements]

/-- The whole of a text is read as a record if it holds one between blanks. -/
theorem readAll_readRecord_eq_ok_iff {strings : List (List Char)} :
    readAll (readRecord names) text = .ok strings ↔
      ∃ s : Slot, s.text = text ∧ IsRecord names strings s.inner := by
  rw [readAll_eq_ok_iff]
  constructor
  · rintro ⟨rest, hread, hblank⟩
    obtain ⟨left, inner, hleft, hrecord, rfl⟩ := readRecord_eq_ok_iff.mp hread
    exact ⟨⟨left, inner, rest, hleft, hblank⟩, rfl, hrecord⟩
  · rintro ⟨s, rfl, hrecord⟩
    have hread : readRecord names s.text = .ok (strings, s.right) :=
      readRecord_eq_ok_iff.mpr ⟨s.left, s.inner, s.left_blank, hrecord, rfl⟩
    exact ⟨s.right, hread, s.right_blank⟩

end Pageviews.Json
