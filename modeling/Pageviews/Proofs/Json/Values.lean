import Pageviews.Proofs.Json.Numbers
import Pageviews.Text.Search

/-! The reader that passes over values of any form. Main statement: it passes over what is a value,
and nothing else. -/
namespace Pageviews.Json

variable {text rest after left inner blanks : List Char} {opening closing c : Char}
  {parts : List (List Char)} {frame : Frame} {frames : List Frame} {goal : Goal}
  {next : Option (Goal × List Frame)}

/-- Further parts, each behind a comma, and the bracket behind them. The blanks in front still
belong to the part before. -/
def Further (closing : Char) (parts : List (List Char)) (text rest : List Char) : Prop :=
  ∃ right, Blank right ∧ text = right ++ (parts.flatMap (',' :: ·) ++ closing :: rest)

theorem Blank.append {others : List Char} (h : Blank blanks) (h' : Blank others) :
    Blank (blanks ++ others) :=
  List.forall_mem_append.mpr ⟨h, h'⟩

namespace Further

theorem close (h : Blank blanks) (rest : List Char) :
    Further closing [] (blanks ++ closing :: rest) rest :=
  ⟨blanks, h, rfl⟩

/-- The part before further parts ends with their blanks. -/
theorem exists_slot (h : Further closing parts after rest) (hleft : Blank left)
    (inner : List Char) : ∃ s : Slot, s.inner = inner ∧
      left ++ (inner ++ after) = s.text ++ (parts.flatMap (',' :: ·) ++ closing :: rest) := by
  obtain ⟨right, hright, rfl⟩ := h
  exact ⟨⟨left, inner, right, hleft, hright⟩, rfl, by simp [Slot.text]⟩

theorem cons (part : List Char) (hblank : Blank blanks) :
    Further closing (part :: parts)
      (blanks ++ ',' :: (part ++ (parts.flatMap (',' :: ·) ++ closing :: rest))) rest :=
  ⟨blanks, hblank, by simp⟩

end Further

theorem enclosed_nil_iff : Enclosed opening closing [] text ↔
    ∃ blanks, Blank blanks ∧ text = opening :: (blanks ++ [closing]) := by
  constructor
  · intro h
    cases h with
    | none hblank => exact ⟨_, hblank, rfl⟩
    | some hne => exact absurd rfl hne
  · rintro ⟨blanks, hblank, rfl⟩
    exact .none hblank

theorem enclosed_cons_iff {part : List Char} : Enclosed opening closing (part :: parts) text ↔
    text = opening :: (part ++ (parts.flatMap (',' :: ·) ++ [closing])) := by
  have htext : opening :: [','].intercalate (part :: parts) ++ [closing] =
      opening :: (part ++ (parts.flatMap (',' :: ·) ++ [closing])) := by simp [Text.intercalate_cons]
  constructor
  · intro h
    cases h with
    | some => exact htext
  · rintro rfl
    rw [← htext]
    exact .some (List.cons_ne_nil part parts)

theorem Enclosed.exists_cons (h : Enclosed opening closing parts text) :
    ∃ tail, text = opening :: tail := by
  cases h <;> exact ⟨_, rfl⟩

/-- A text that closes the open frames. -/
inductive Closes : List Frame → List Char → List Char → Prop where
  | nil {rest : List Char} : Closes [] rest rest
  | array {frames : List Frame} {text after rest : List Char} {elements : List Slot}
      (h : ∀ e ∈ elements, IsValue e.inner)
      (hfurther : Further ']' (elements.map Slot.text) text after)
      (ht : Closes frames after rest) : Closes (.array :: frames) text rest
  | object {frames : List Frame} {text after rest : List Char} {entries : List Entry}
      (hname : ∀ e ∈ entries, Marks e.name) (h : ∀ e ∈ entries, IsValue e.value.inner)
      (hfurther : Further '\x7d' (entries.map Entry.text) text after)
      (ht : Closes frames after rest) : Closes (.object :: frames) text rest

/-- A text that goes on as it should and closes the open frames. -/
def Completes (goal : Goal) (frames : List Frame) (text rest : List Char) : Prop :=
  match goal with
  | .value => ∃ left inner after, Blank left ∧ IsValue inner ∧ text = left ++ (inner ++ after) ∧
      Closes frames after rest
  | .member => ∃ before name gap left inner after, Blank before ∧ Marks name ∧ Blank gap ∧
      Blank left ∧ IsValue inner ∧
      text = before ++ (quoted name ++ (gap ++ ':' :: (left ++ (inner ++ after)))) ∧
      Closes (.object :: frames) after rest
  | .next => Closes frames text rest

/-- A text that goes on as it should from where passing over a value goes on, or is left when it is
done. -/
def CompletesFrom (next : Option (Goal × List Frame)) (text rest : List Char) : Prop :=
  match next with
  | none => text = rest
  | some (goal, frames) => Completes goal frames text rest

theorem eq_append_of_word {expected : List Char} (h : word expected text = .ok rest) :
    text = expected ++ rest := by
  induction expected generalizing text with
  | nil =>
    cases h
    rfl
  | cons w expected ih =>
    cases text with
    | nil => cases h
    | cons c text =>
      rw [word] at h
      split at h
      · next heq => rw [heq, ih h, List.cons_append]
      · cases h

/-- An open array whose first element is next is a value when it has been closed. -/
theorem Completes.array (h : Completes .value (.array :: frames) text rest)
    (hblank : Blank blanks) :
    ∃ inner after, IsValue inner ∧ '[' :: (blanks ++ text) = inner ++ after ∧
      Closes frames after rest := by
  obtain ⟨left, first, tail, hleft, hfirst, rfl, hcloses⟩ := h
  cases hcloses with
  | @array _ _ after _ elements h hfurther ht =>
    obtain ⟨s, hs, htext⟩ := hfurther.exists_slot (hblank.append hleft) first
    have hvalues : ∀ e ∈ s :: elements, IsValue e.inner :=
      List.forall_mem_cons.mpr ⟨hs ▸ hfirst, h⟩
    refine ⟨_, after, .array hvalues (enclosed_cons_iff.mpr rfl), ?_, ht⟩
    rw [← List.append_assoc, htext]
    simp

/-- An open object whose first member is next is a value when it has been closed. -/
theorem Completes.object (h : Completes .member frames text rest) (hblank : Blank blanks) :
    ∃ inner after, IsValue inner ∧ '\x7b' :: (blanks ++ text) = inner ++ after ∧
      Closes frames after rest := by
  obtain ⟨before, name, gap, left, first, tail, hbefore, hname, hgap, hleft, hfirst, rfl,
    hcloses⟩ := h
  cases hcloses with
  | @object _ _ after _ entries hnames h hfurther ht =>
    obtain ⟨s, rfl, htext⟩ := hfurther.exists_slot hleft first
    let e : Entry := ⟨blanks ++ before, name, gap, s, hblank.append hbefore, hgap⟩
    have hmembers : ∀ m ∈ e :: entries, Marks m.name := List.forall_mem_cons.mpr ⟨hname, hnames⟩
    have hvalues : ∀ m ∈ e :: entries, IsValue m.value.inner :=
      List.forall_mem_cons.mpr ⟨hfirst, h⟩
    refine ⟨_, after, .object hmembers hvalues (enclosed_cons_iff.mpr rfl), ?_, ht⟩
    rw [htext]
    simp [e, Entry.text]

theorem completes_of_passValue (hpass : passValue frames text = .ok (next, after))
    (h : CompletesFrom next after rest) :
    ∃ inner tail, IsValue inner ∧ text = inner ++ tail ∧ Closes frames tail rest := by
  unfold passValue at hpass
  split at hpass
  · cases hpass
  next c tail =>
  have hword {expected : List Char} (hmem : c :: expected ∈ ["null".toList, "true".toList,
      "false".toList]) (hpass : (word expected tail).map (some (.next, frames), ·) =
        .ok (next, after)) :
      ∃ inner rest', IsValue inner ∧ c :: tail = inner ++ rest' ∧ Closes frames rest' rest := by
    obtain ⟨_, hword, heq⟩ := exists_of_map_eq_ok hpass
    cases heq
    exact ⟨_, after, .word hmem, by rw [eq_append_of_word hword, List.cons_append], h⟩
  split at hpass
  · next hc => exact hword (by simp [hc]) hpass
  split at hpass
  · next hc => exact hword (by simp [hc]) hpass
  split at hpass
  · next hc => exact hword (by simp [hc]) hpass
  split at hpass
  · next hc =>
    subst hc
    obtain ⟨_, hskip, heq⟩ := exists_of_map_eq_ok hpass
    cases heq
    obtain ⟨body, hmarks, rfl⟩ := exists_of_skipString hskip
    exact ⟨quoted body, after, .string hmarks, by simp [quoted], h⟩
  split at hpass
  · next hc =>
    subst hc
    obtain ⟨_, hnumber, heq⟩ := exists_of_map_eq_ok hpass
    cases heq
    obtain ⟨magnitude, hmagnitude, rfl⟩ := exists_of_number hnumber
    exact ⟨'-' :: magnitude, _, .number (.negative hmagnitude), rfl, h⟩
  split at hpass
  · obtain ⟨_, hnumber, heq⟩ := exists_of_map_eq_ok hpass
    cases heq
    obtain ⟨magnitude, hmagnitude, htext⟩ := exists_of_number hnumber
    exact ⟨magnitude, _, .number (.positive hmagnitude), htext, h⟩
  split at hpass
  · next hc =>
    subst hc
    obtain ⟨blanks, hblank, htail⟩ := exists_blank tail
    split at hpass
    · cases hpass
    · next hskip =>
      cases hpass
      rw [hskip] at htail
      exact ⟨_, after, @IsValue.array [] _ nofun (.none hblank), by simp [htail], h⟩
    · cases hpass
      rw [htail]
      exact Completes.array h hblank
  split at hpass
  · next hc =>
    subst hc
    obtain ⟨blanks, hblank, htail⟩ := exists_blank tail
    split at hpass
    · cases hpass
    · next hskip =>
      cases hpass
      rw [hskip] at htail
      exact ⟨_, after, @IsValue.object [] _ nofun nofun (.none hblank), by simp [htail], h⟩
    · cases hpass
      rw [htail]
      exact Completes.object h hblank
  · cases hpass

theorem completes_of_passName (hpass : passName frames text = .ok (next, after))
    (h : CompletesFrom next after rest) : Completes .member frames text rest := by
  unfold passName at hpass
  split at hpass
  · cases hpass
  · obtain ⟨tail, hskip, hread⟩ := bind_eq_ok_iff.mp hpass
    obtain ⟨name, hname, rfl⟩ := exists_of_skipString hskip
    obtain ⟨gap, hgap, htail⟩ := exists_blank tail
    split at hread
    · cases hread
    · next hcolon =>
      cases hread
      obtain ⟨left, inner, last, hleft, hvalue, rfl, hcloses⟩ := h
      rw [hcolon] at htail
      exact ⟨[], name, gap, left, inner, last, nofun, hname, hgap, hleft, hvalue,
        by simp [htail, quoted], hcloses⟩
    · cases hread
  · cases hpass

theorem completes_of_passNext (hpass : passNext frame frames text = .ok (next, after))
    (h : CompletesFrom next after rest) (hblank : Blank blanks) :
    Closes (frame :: frames) (blanks ++ text) rest := by
  unfold passNext at hpass
  split at hpass
  · cases hpass
  · next tail =>
    cases frame with
    | array =>
      cases hpass
      obtain ⟨left, inner, last, hleft, hvalue, rfl, hcloses⟩ := h
      cases hcloses with
      | array hall hfurther ht =>
        obtain ⟨s, rfl, htext⟩ := hfurther.exists_slot hleft inner
        rw [htext]
        exact .array (List.forall_mem_cons.mpr ⟨hvalue, hall⟩) (.cons s.text hblank) ht
    | object =>
      cases hpass
      obtain ⟨before, name, gap, left, inner, last, hbefore, hname, hgap, hleft, hvalue, rfl,
        hcloses⟩ := h
      cases hcloses with
      | @object _ _ closed _ entries hnames hall hfurther ht =>
        obtain ⟨s, rfl, htext⟩ := hfurther.exists_slot hleft inner
        let e : Entry := ⟨before, name, gap, s, hbefore, hgap⟩
        have hentry : before ++ (quoted name ++ (gap ++ ':' :: (left ++ (s.inner ++ last)))) =
            e.text ++ ((entries.map Entry.text).flatMap (',' :: ·) ++ '\x7d' :: closed) := by
          simp [htext, e, Entry.text]
        rw [hentry]
        exact .object (List.forall_mem_cons.mpr ⟨hname, hnames⟩)
          (List.forall_mem_cons.mpr ⟨hvalue, hall⟩) (.cons e.text hblank) ht
  · split at hpass
    · next hframe =>
      subst hframe
      cases hpass
      exact @Closes.array _ _ _ _ [] nofun (.close hblank _) h
    · cases hpass
  · split at hpass
    · next hframe =>
      subst hframe
      cases hpass
      exact @Closes.object _ _ _ _ [] nofun nofun (.close hblank _) h
    · cases hpass
  · cases hpass

/-- A step is right if what comes after it is. -/
theorem completes_of_pass (hpass : pass goal frames text = .ok (next, after))
    (h : CompletesFrom next after rest) : Completes goal frames text rest := by
  obtain ⟨blanks, hblank, htext⟩ := exists_blank text
  unfold pass at hpass
  split at hpass
  · obtain ⟨inner, tail, hvalue, hskip, hcloses⟩ := completes_of_passValue hpass h
    rw [htext, hskip]
    exact ⟨blanks, inner, tail, hblank, hvalue, rfl, hcloses⟩
  · obtain ⟨before, name, gap, left, inner, tail, hbefore, hmember⟩ :=
      completes_of_passName hpass h
    obtain ⟨hname, hgap, hleft, hvalue, hskip, hcloses⟩ := hmember
    rw [htext, hskip, ← List.append_assoc]
    exact ⟨blanks ++ before, name, gap, left, inner, tail, hblank.append hbefore, hname, hgap,
      hleft, hvalue, rfl, hcloses⟩
  · cases hpass
    cases h
    exact .nil
  · rw [htext]
    exact completes_of_passNext hpass h hblank

/-- By induction on the steps, from the last one back. -/
theorem completes_of_passAll (h : passAll goal frames text = .ok rest) :
    Completes goal frames text rest := by
  fun_induction passAll goal frames text with
  | case1 => cases h
  | case2 goal frames text after hpass =>
    cases h
    exact completes_of_pass hpass rfl
  | case3 goal frames text goal' frames' after hpass ih => exact completes_of_pass hpass (ih h)

/-- Only values are passed over. -/
theorem exists_of_skipValue (h : skipValue text = .ok rest) : ∃ left inner, Blank left ∧
    IsValue inner ∧ text = left ++ (inner ++ rest) := by
  obtain ⟨left, inner, after, hleft, hvalue, htext, hcloses⟩ := completes_of_passAll h
  cases hcloses
  exact ⟨left, inner, hleft, hvalue, htext⟩

theorem passAll_eq {goal' : Goal} {frames' : List Frame}
    (h : pass goal frames text = .ok (some (goal', frames'), rest)) :
    passAll goal frames text = passAll goal' frames' rest := by
  rw [passAll]
  split
  · next hpass => rw [h] at hpass; cases hpass
  · next hpass => rw [h] at hpass; cases hpass
  · next hpass => rw [h] at hpass; cases hpass; rfl

theorem passAll_nil (text : List Char) : passAll .next [] text = .ok text := by
  rw [passAll]
  rfl

/-- A text is passed over as a value, whatever is open and as long as no number could go on. -/
def Passes (inner : List Char) : Prop :=
  ∀ frames left rest, Blank left → EndsNumber rest →
    passAll .value frames (left ++ (inner ++ rest)) = passAll .next frames rest

/-- What passing over a value comes to, if its first character is known. -/
theorem passes_of_passValue (hblank : isBlank c = false)
    (h : ∀ frames rest, EndsNumber rest →
      passValue frames (c :: (inner ++ rest)) = .ok (some (.next, frames), rest)) :
    Passes (c :: inner) := by
  intro frames left rest hleft hend
  refine passAll_eq ?_
  rw [pass, skipBlanks_append hleft, List.cons_append, skipBlanks_cons hblank]
  exact h frames rest hend

theorem ne_of_isDigit (h : c.isDigit = true) :
    c ∉ ['n', 't', 'f', '"', '-', ' ', '\n', '\t', '\r', ']', '['] := by
  intro hmem
  simp only [List.mem_cons, List.not_mem_nil, or_false] at hmem
  rcases hmem with rfl | rfl | rfl | rfl | rfl | rfl | rfl | rfl | rfl | rfl | rfl <;> cases h

theorem IsMagnitude.exists_digit {magnitude : List Char} (h : IsMagnitude magnitude) :
    ∃ c tail, magnitude = c :: tail ∧ c.isDigit = true := by
  obtain ⟨hwhole, -, -⟩ := h
  cases hwhole with
  | zero => exact ⟨_, _, rfl, rfl⟩
  | digits hc => exact ⟨_, _, rfl, hc⟩

/-- A value begins with a character that is neither blank nor the end of an array. -/
theorem IsValue.exists_head (h : IsValue inner) :
    ∃ c tail, inner = c :: tail ∧ isBlank c = false ∧ c ≠ ']' := by
  cases h with
  | word h =>
    simp only [List.mem_cons, List.not_mem_nil, or_false] at h
    rcases h with rfl | rfl | rfl <;> exact ⟨_, _, rfl, rfl, by decide⟩
  | string => exact ⟨_, _, rfl, rfl, by decide⟩
  | number h =>
    cases h with
    | positive h =>
      obtain ⟨c, tail, rfl, hdigit⟩ := h.exists_digit
      have hne := ne_of_isDigit hdigit
      simp only [List.mem_cons, List.not_mem_nil, or_false, not_or] at hne
      refine ⟨c, tail, rfl, ?_, hne.2.2.2.2.2.2.2.2.2.1⟩
      simp [isBlank, hne]
    | negative => exact ⟨_, _, rfl, rfl, by decide⟩
  | array _ ht =>
    obtain ⟨tail, rfl⟩ := ht.exists_cons
    exact ⟨_, _, rfl, rfl, by decide⟩
  | object _ _ ht =>
    obtain ⟨tail, rfl⟩ := ht.exists_cons
    exact ⟨_, _, rfl, rfl, by decide⟩

theorem passes_number (h : IsNumber inner) : Passes inner := by
  cases h with
  | positive h =>
    obtain ⟨c, tail, rfl, hdigit⟩ := h.exists_digit
    have hne := ne_of_isDigit hdigit
    simp only [List.mem_cons, List.not_mem_nil, or_false, not_or] at hne
    refine passes_of_passValue (by simp [isBlank, hne]) fun frames rest hend => ?_
    obtain ⟨n, hnumber⟩ := exists_number .malformed h hend
    rw [List.cons_append] at hnumber
    simp [passValue, hne, hdigit, hnumber, Except.map]
  | @negative magnitude h =>
    refine passes_of_passValue rfl fun frames rest hend => ?_
    obtain ⟨n, hnumber⟩ := exists_number .malformed h hend
    simp [passValue, hnumber, Except.map]

/-- What follows the blanks at the end of a part is not part of a number. -/
theorem endsNumber_further (parts : List (List Char)) (rest : List Char)
    (hclosing : closing = ']' ∨ closing = '\x7d') (hblank : Blank blanks) :
    EndsNumber (blanks ++ (parts.flatMap (',' :: ·) ++ closing :: rest)) := by
  refine EndsNumber.append hblank ?_
  cases parts with
  | nil => exact endsNumber_cons (by rcases hclosing with rfl | rfl <;> decide) _
  | cons => exact endsNumber_cons (by decide) _

/-- The elements that are left of an array, if each of them is passed over. -/
theorem passAll_elements {elements : List Slot} (h : ∀ e ∈ elements, Passes e.inner)
    (hblank : Blank blanks) (rest : List Char) :
    passAll .next (.array :: frames)
        (blanks ++ ((elements.map Slot.text).flatMap (',' :: ·) ++ ']' :: rest)) =
      passAll .next frames rest := by
  induction elements generalizing blanks with
  | nil =>
    refine passAll_eq ?_
    rw [pass, skipBlanks_append hblank]
    rfl
  | cons e elements ih =>
    rw [List.forall_mem_cons] at h
    let later := (elements.map Slot.text).flatMap (',' :: ·) ++ ']' :: rest
    have hend := endsNumber_further (elements.map Slot.text) rest (.inl rfl) e.right_blank
    have htext : ((e :: elements).map Slot.text).flatMap (',' :: ·) ++ ']' :: rest =
        ',' :: (e.left ++ (e.inner ++ (e.right ++ later))) := by simp [Slot.text, later]
    calc passAll .next (.array :: frames)
          (blanks ++ (((e :: elements).map Slot.text).flatMap (',' :: ·) ++ ']' :: rest))
        = passAll .value (.array :: frames) (e.left ++ (e.inner ++ (e.right ++ later))) := by
          refine passAll_eq ?_
          rw [pass, skipBlanks_append hblank, htext]
          rfl
      _ = passAll .next (.array :: frames) (e.right ++ later) := h.1 _ _ _ e.left_blank hend
      _ = passAll .next frames rest := ih h.2 e.right_blank

/-- A member, if its value is passed over. -/
theorem passAll_entry (e : Entry) (hname : Marks e.name) (h : Passes e.value.inner)
    (hend : EndsNumber (e.value.right ++ rest)) :
    passAll .member frames (e.text ++ rest) =
      passAll .next (.object :: frames) (e.value.right ++ rest) := by
  let after := e.value.left ++ (e.value.inner ++ (e.value.right ++ rest))
  have htext : e.text ++ rest = e.before ++ '"' :: (e.name ++ '"' :: (e.gap ++ ':' :: after)) := by
    simp [Entry.text, Slot.text, quoted, after]
  have hskip : skipString (e.name ++ '"' :: (e.gap ++ ':' :: after)) =
      .ok (e.gap ++ ':' :: after) := skipString_append hname _
  calc passAll .member frames (e.text ++ rest)
      = passAll .value (.object :: frames) after := by
        refine passAll_eq ?_
        rw [pass, htext, skipBlanks_append e.before_blank, skipBlanks_cons rfl, passName, hskip]
        refine bind_eq_ok_iff.mpr ⟨_, rfl, ?_⟩
        rw [skipBlanks_append e.gap_blank]
        rfl
    _ = passAll .next (.object :: frames) (e.value.right ++ rest) := h _ _ _ e.value.left_blank hend

/-- The members that are left of an object, if their values are passed over. -/
theorem passAll_entries {entries : List Entry} (hnames : ∀ e ∈ entries, Marks e.name)
    (h : ∀ e ∈ entries, Passes e.value.inner) (hblank : Blank blanks) (rest : List Char) :
    passAll .next (.object :: frames)
        (blanks ++ ((entries.map Entry.text).flatMap (',' :: ·) ++ '\x7d' :: rest)) =
      passAll .next frames rest := by
  induction entries generalizing blanks with
  | nil =>
    refine passAll_eq ?_
    rw [pass, skipBlanks_append hblank]
    rfl
  | cons e entries ih =>
    rw [List.forall_mem_cons] at h hnames
    let later := (entries.map Entry.text).flatMap (',' :: ·) ++ '\x7d' :: rest
    have hend := endsNumber_further (entries.map Entry.text) rest (.inr rfl) e.value.right_blank
    have htext : ((e :: entries).map Entry.text).flatMap (',' :: ·) ++ '\x7d' :: rest =
        ',' :: (e.text ++ later) := by simp [later]
    calc passAll .next (.object :: frames)
          (blanks ++ (((e :: entries).map Entry.text).flatMap (',' :: ·) ++ '\x7d' :: rest))
        = passAll .member frames (e.text ++ later) := by
          refine passAll_eq ?_
          rw [pass, skipBlanks_append hblank, htext]
          rfl
      _ = passAll .next (.object :: frames) (e.value.right ++ later) :=
          passAll_entry e hnames.1 h.1 hend
      _ = passAll .next frames rest := ih hnames.2 h.2 e.value.right_blank

theorem passes_word (h : inner ∈ ["null".toList, "true".toList, "false".toList]) :
    Passes inner := by
  simp only [List.mem_cons, List.not_mem_nil, or_false] at h
  rcases h with rfl | rfl | rfl <;> exact passes_of_passValue rfl fun _ _ _ => rfl

theorem passes_quoted (h : Marks inner) : Passes (quoted inner) := by
  refine passes_of_passValue rfl fun frames rest _ => ?_
  show (skipString (inner ++ ['"'] ++ rest)).map (some (Goal.next, frames), ·) = _
  rw [List.append_assoc, List.singleton_append, skipString_append h]
  rfl

theorem passValue_emptyArray (hblank : Blank blanks) (rest : List Char) :
    passValue frames ('[' :: (blanks ++ ']' :: rest)) = .ok (some (.next, frames), rest) := by
  have hskip : skipBlanks (blanks ++ ']' :: rest) = ']' :: rest := by
    rw [skipBlanks_append hblank, skipBlanks_cons rfl]
  simp [passValue, hskip]

theorem passValue_array (hskip : skipBlanks text = c :: rest) (hne : c ≠ ']') :
    passValue frames ('[' :: text) = .ok (some (.value, .array :: frames), c :: rest) := by
  simp [passValue, hskip, hne]

theorem passValue_emptyObject (hblank : Blank blanks) (rest : List Char) :
    passValue frames ('\x7b' :: (blanks ++ '\x7d' :: rest)) = .ok (some (.next, frames), rest) := by
  have hskip : skipBlanks (blanks ++ '\x7d' :: rest) = '\x7d' :: rest := by
    rw [skipBlanks_append hblank, skipBlanks_cons rfl]
  simp [passValue, hskip]

theorem passValue_object (hskip : skipBlanks text = c :: rest) (hne : c ≠ '\x7d') :
    passValue frames ('\x7b' :: text) = .ok (some (.member, frames), c :: rest) := by
  simp [passValue, hskip, hne]

theorem passes_array {elements : List Slot} (hvalue : ∀ e ∈ elements, IsValue e.inner)
    (h : ∀ e ∈ elements, Passes e.inner) (ht : Enclosed '[' ']' (elements.map Slot.text) text) :
    Passes text := by
  cases elements with
  | nil =>
    obtain ⟨blanks, hblank, rfl⟩ := enclosed_nil_iff.mp ht
    refine passes_of_passValue rfl fun frames rest _ => ?_
    rw [List.append_assoc]
    exact passValue_emptyArray hblank rest
  | cons e elements =>
    intro frames left rest hleft hend
    rw [List.forall_mem_cons] at h hvalue
    let later := (elements.map Slot.text).flatMap (',' :: ·) ++ ']' :: rest
    have htext : text ++ rest = '[' :: (e.left ++ (e.inner ++ (e.right ++ later))) := by
      rw [enclosed_cons_iff.mp ht]
      simp [Slot.text, later]
    have hnext := endsNumber_further (elements.map Slot.text) rest (.inl rfl) e.right_blank
    obtain ⟨c, tail, hinner, hblank, hne⟩ := hvalue.1.exists_head
    have hskip : skipBlanks (e.left ++ (e.inner ++ (e.right ++ later))) =
        c :: (tail ++ (e.right ++ later)) := by
      rw [skipBlanks_append e.left_blank, hinner, List.cons_append, skipBlanks_cons hblank]
    calc passAll .value frames (left ++ (text ++ rest))
        = passAll .value (.array :: frames) ([] ++ (e.inner ++ (e.right ++ later))) := by
          refine passAll_eq ?_
          rw [pass, skipBlanks_append hleft, htext, skipBlanks_cons rfl, passValue_array hskip hne,
            hinner]
          rfl
      _ = passAll .next (.array :: frames) (e.right ++ later) := h.1 _ _ _ nofun hnext
      _ = passAll .next frames rest := passAll_elements h.2 e.right_blank rest

theorem passes_object {entries : List Entry} (hnames : ∀ e ∈ entries, Marks e.name)
    (h : ∀ e ∈ entries, Passes e.value.inner)
    (ht : Enclosed '\x7b' '\x7d' (entries.map Entry.text) text) : Passes text := by
  cases entries with
  | nil =>
    obtain ⟨blanks, hblank, rfl⟩ := enclosed_nil_iff.mp ht
    refine passes_of_passValue rfl fun frames rest _ => ?_
    rw [List.append_assoc]
    exact passValue_emptyObject hblank rest
  | cons e entries =>
    intro frames left rest hleft hend
    rw [List.forall_mem_cons] at h hnames
    let later := (entries.map Entry.text).flatMap (',' :: ·) ++ '\x7d' :: rest
    have htext : text ++ rest = '\x7b' :: (e.text ++ later) := by
      rw [enclosed_cons_iff.mp ht]
      simp [later]
    have hnext := endsNumber_further (entries.map Entry.text) rest (.inr rfl) e.value.right_blank
    -- the blanks before the name are passed over with the bracket
    let unblanked : Entry := { e with before := [], before_blank := nofun }
    have hskip : skipBlanks (e.text ++ later) = unblanked.text ++ later := by
      rw [Entry.text, List.append_assoc, skipBlanks_append e.before_blank]
      exact skipBlanks_cons rfl _
    calc passAll .value frames (left ++ (text ++ rest))
        = passAll .member frames (unblanked.text ++ later) := by
          refine passAll_eq ?_
          rw [pass, skipBlanks_append hleft, htext, skipBlanks_cons rfl]
          exact passValue_object hskip (by decide)
      _ = passAll .next (.object :: frames) (e.value.right ++ later) :=
          passAll_entry unblanked hnames.1 h.1 hnext
      _ = passAll .next frames rest := passAll_entries hnames.2 h.2 e.value.right_blank rest

/-- Values of every form are passed over. -/
theorem IsValue.passes (h : IsValue inner) : Passes inner := by
  induction h with
  | word h => exact passes_word h
  | string h => exact passes_quoted h
  | number h => exact passes_number h
  | array hvalue ht ih => exact passes_array hvalue ih ht
  | object hnames _ ht ih => exact passes_object hnames ih ht

/-- What is passed over is a value. -/
theorem skipValue_eq_ok_iff (hend : EndsNumber rest) : skipValue text = .ok rest ↔
    ∃ left inner, Blank left ∧ IsValue inner ∧ text = left ++ (inner ++ rest) := by
  refine ⟨exists_of_skipValue, ?_⟩
  rintro ⟨left, inner, hleft, hvalue, rfl⟩
  exact (hvalue.passes [] left rest hleft hend).trans (passAll_nil rest)

end Pageviews.Json
