/-! Finding words and simple patterns in text. A pattern is a function of what lies ahead. -/
namespace Pageviews.Text

/-- What follows a word at the start of a text. -/
def after? : List Char → List Char → Option (List Char)
  | [], text => some text
  | _ :: _, [] => none
  | w :: word, c :: text => if w = c then after? word text else none

/-- The result of a pattern at the first place where it applies, the end included. -/
def search {α : Type} (pattern : List Char → Option α) : List Char → Option α
  | [] => pattern []
  | c :: rest =>
    match pattern (c :: rest) with
    | some result => some result
    | none => search pattern rest

def leads (word : String) (text : List Char) : Bool := (after? word.toList text).isSome

def has (word : String) (text : List Char) : Bool := (search (after? word.toList) text).isSome

/-- The characters of a class at the start of a text, at least one, and what follows them. -/
def run? (p : Char → Bool) (text : List Char) : Option (List Char × List Char) :=
  let taken := text.takeWhile p
  if taken = [] then none else some (taken, text.dropWhile p)

/-- The text before the first occurrence of a word, and the text after it. -/
def cut? (word : List Char) : List Char → Option (List Char × List Char)
  | [] => if word = [] then some ([], []) else none
  | c :: rest =>
    match after? word (c :: rest) with
    | some after => some ([], after)
    | none => (cut? word rest).map fun (before, after) => (c :: before, after)

/-- The parts of a text between occurrences of a character; always at least one. -/
def split (separator : Char) : List Char → List (List Char)
  | [] => [[]]
  | c :: rest =>
    if c = separator then [] :: split separator rest
    else match split separator rest with
      | [] => [[c]]
      | part :: parts => (c :: part) :: parts

variable {mark separator c : Char} {text before part word rest : List Char}

theorem after?_eq_some_iff : after? word text = some rest ↔ text = word ++ rest := by
  induction word generalizing text with
  | nil => simp [after?]
  | cons w word ih =>
    cases text with
    | nil => simp [after?]
    | cons c text =>
      rw [after?, List.cons_append, List.cons.injEq]
      by_cases hw : w = c
      · rw [if_pos hw, ih]
        exact ⟨fun h => ⟨hw.symm, h⟩, fun h => h.2⟩
      · rw [if_neg hw]
        exact ⟨nofun, fun h => absurd h.1.symm hw⟩

theorem leads_iff {word : String} : leads word text = true ↔ word.toList <+: text := by
  rw [leads, Option.isSome_iff_exists]
  exact exists_congr fun rest => after?_eq_some_iff.trans eq_comm

theorem has_iff {word : String} : has word text = true ↔ word.toList <:+: text := by
  unfold has
  induction text with
  | nil => rw [search, ← leads, leads_iff, List.prefix_nil, List.infix_nil]
  | cons c text ih =>
    rw [search, List.infix_cons_iff, ← leads_iff, ← ih, leads]
    cases after? word.toList (c :: text) <;> simp

theorem cut?_of_not_mem (h : mark ∉ text) : cut? [mark] text = none := by
  induction text with
  | nil => rfl
  | cons c text ih =>
    rw [List.mem_cons, not_or] at h
    simp [cut?, after?, h.1, ih h.2]

theorem cut?_append (h : mark ∉ before) :
    cut? [mark] (before ++ text) =
      (cut? [mark] text).map fun (lead, after) => (before ++ lead, after) := by
  induction before with
  | nil => simp
  | cons c before ih =>
    rw [List.mem_cons, not_or] at h
    simp [cut?, after?, h.1, ih h.2, Function.comp_def]

theorem intercalate_cons {parts : List (List Char)} :
    [separator].intercalate (part :: parts) = part ++ parts.flatMap (separator :: ·) := by
  induction parts generalizing part with
  | nil => simp
  | cons next parts ih => rw [List.intercalate_cons_cons, ih, List.flatMap_cons]; simp

theorem split_of_not_mem (h : separator ∉ text) : split separator text = [text] := by
  induction text with
  | nil => rfl
  | cons c text ih =>
    rw [List.mem_cons, not_or] at h
    simp [split, Ne.symm h.1, ih h.2]

theorem split_append_cons (h : separator ∉ part) :
    split separator (part ++ separator :: text) = part :: split separator text := by
  induction part with
  | nil => simp [split]
  | cons c part ih =>
    rw [List.mem_cons, not_or] at h
    simp [split, Ne.symm h.1, ih h.2]

/-- Parts that were joined are found again. -/
theorem split_intercalate {parts : List (List Char)} (hne : parts ≠ [])
    (h : ∀ part ∈ parts, separator ∉ part) :
    split separator ([separator].intercalate parts) = parts := by
  induction parts with
  | nil => exact absurd rfl hne
  | cons part parts ih =>
    obtain ⟨hpart, hparts⟩ := List.forall_mem_cons.mp h
    cases parts with
    | nil =>
      rw [List.intercalate_singleton]
      exact split_of_not_mem hpart
    | cons next parts =>
      have hrest := ih (List.cons_ne_nil next parts) hparts
      rw [List.intercalate_cons_cons, List.append_assoc, List.singleton_append,
        split_append_cons hpart, hrest]

theorem split_ne_nil : split separator text ≠ [] := by
  cases text with
  | nil => simp [split]
  | cons c text =>
    rw [split]
    split
    · simp
    · split <;> simp

/-- A character other than the separator is in one of the parts. -/
theorem exists_mem_split (hc : c ≠ separator) (h : c ∈ text) :
    ∃ part ∈ split separator text, c ∈ part := by
  induction text with
  | nil => cases h
  | cons d text ih =>
    rw [split]
    split
    · next hd =>
      rcases List.mem_cons.mp h with rfl | h
      · exact absurd hd hc
      · obtain ⟨part, hpart, hmem⟩ := ih h
        exact ⟨part, List.mem_cons_of_mem _ hpart, hmem⟩
    · split
      · next hnil => exact absurd hnil split_ne_nil
      · next first parts hsplit =>
        rcases List.mem_cons.mp h with rfl | h
        · exact ⟨_, List.mem_cons_self, List.mem_cons_self⟩
        · obtain ⟨part, hpart, hmem⟩ := ih h
          rw [hsplit] at hpart
          rcases List.mem_cons.mp hpart with rfl | hpart
          · exact ⟨_, List.mem_cons_self, List.mem_cons_of_mem d hmem⟩
          · exact ⟨part, List.mem_cons_of_mem _ hpart, hmem⟩

/-- The parts have the characters of the text other than separators. -/
theorem mem_of_mem_split (hpart : part ∈ split separator text) (hc : c ∈ part) :
    c ∈ text ∧ c ≠ separator := by
  induction text generalizing part with
  | nil =>
    rw [split, List.mem_singleton] at hpart
    rw [hpart] at hc
    cases hc
  | cons d text ih =>
    have hne : split separator text ≠ [] := split_ne_nil
    obtain ⟨first, parts, hparts⟩ := List.exists_cons_of_ne_nil hne
    rw [hparts] at ih
    rw [split, hparts] at hpart
    split at hpart
    · rcases List.mem_cons.mp hpart with rfl | hpart
      · cases hc
      · exact (ih hpart hc).imp_left (List.mem_cons_of_mem d)
    · next hd =>
      rcases List.mem_cons.mp hpart with rfl | hpart
      · rcases List.mem_cons.mp hc with rfl | hc
        · exact ⟨List.mem_cons_self, hd⟩
        · exact (ih List.mem_cons_self hc).imp_left (List.mem_cons_of_mem d)
      · exact (ih (List.mem_cons_of_mem first hpart) hc).imp_left (List.mem_cons_of_mem d)

/-- The parts make up the text again. -/
theorem intercalate_split : [separator].intercalate (split separator text) = text := by
  induction text with
  | nil => rfl
  | cons c text ih =>
    have hne : split separator text ≠ [] := split_ne_nil
    obtain ⟨part, parts, hparts⟩ := List.exists_cons_of_ne_nil hne
    rw [hparts] at ih
    rw [split, hparts]
    split
    · next hc =>
      rw [List.intercalate_cons_cons, ih, hc]
      rfl
    · cases parts with
      | nil =>
        rw [List.intercalate_singleton] at ih ⊢
        rw [ih]
      | cons next parts =>
        rw [List.intercalate_cons_cons] at ih ⊢
        rw [List.cons_append, List.cons_append, ih]

/-- A change of characters that keeps separators and makes none changes only the parts. -/
theorem split_map {f : Char → Char} (hf : ∀ c, f c = separator ↔ c = separator) :
    split separator (text.map f) = (split separator text).map (List.map f) := by
  induction text with
  | nil => rfl
  | cons c text ih =>
    have hne : split separator text ≠ [] := split_ne_nil
    obtain ⟨part, parts, hparts⟩ := List.exists_cons_of_ne_nil hne
    rw [List.map_cons, split, split, ih, hparts]
    by_cases hc : c = separator
    · rw [if_pos hc, if_pos ((hf c).mpr hc)]
      rfl
    · rw [if_neg hc, if_neg (mt (hf c).mp hc)]
      rfl

end Pageviews.Text
