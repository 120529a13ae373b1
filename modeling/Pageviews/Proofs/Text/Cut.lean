import Mathlib.Data.List.Infix
import Pageviews.Text.Search

/-! Where a word is found first. Main statement: a text is cut around the first occurrence of a
word, and only a text without the word is not cut. -/
namespace Pageviews.Text

variable {c d separator : Char} {word text before after rest : List Char}
  {parts more : List (List Char)}

theorem after?_eq_none_iff : after? word text = none ↔ ¬ word <+: text := by
  rw [← Option.not_isSome_iff_eq_none, Option.isSome_iff_exists, not_iff_not]
  exact exists_congr fun rest => after?_eq_some_iff.trans eq_comm

/-- The word is looked for at the start of the text, and then behind its first character. -/
theorem cut?_cons_eq_some_iff :
    cut? word (d :: text) = some (before, after) ↔
      before = [] ∧ d :: text = word ++ after ∨
        ¬ word <+: d :: text ∧ ∃ lead, before = d :: lead ∧ cut? word text = some (lead, after) := by
  rw [cut?]
  cases hafter : after? word (d :: text) with
  | some found =>
    have htext : d :: text = word ++ found := after?_eq_some_iff.mp hafter
    simp [htext, eq_comm]
  | none =>
    have hlead : ¬ word <+: d :: text := after?_eq_none_iff.mp hafter
    have hother : d :: text ≠ word ++ after := fun h => hlead ⟨after, h.symm⟩
    simp only [Option.map_eq_some_iff, Prod.exists, Prod.mk.injEq, hlead, not_false_eq_true,
      true_and, hother, and_false, false_or]
    grind

theorem cut?_eq_none_iff : cut? word text = none ↔ ¬ word <:+: text := by
  induction text with
  | nil => simp [cut?]
  | cons d text ih =>
    rw [cut?, List.infix_cons_iff, not_or, ← ih, ← after?_eq_none_iff]
    cases after? word (d :: text) <;> simp

/-- What begins in front of a character that the word has not also ends there. -/
theorem prefix_of_prefix_append (hc : c ∉ word) (h : word <+: before ++ c :: rest) :
    word <+: before := by
  induction before generalizing word with
  | nil =>
    cases word with
    | nil => exact List.nil_prefix
    | cons w word =>
      obtain ⟨rfl, -⟩ := List.cons_prefix_cons.mp h
      exact absurd List.mem_cons_self hc
  | cons b before ih =>
    cases word with
    | nil => exact List.nil_prefix
    | cons w word =>
      obtain ⟨rfl, htail⟩ := List.cons_prefix_cons.mp h
      exact List.cons_prefix_cons.mpr ⟨rfl, ih (fun hmem => hc (List.mem_cons_of_mem w hmem)) htail⟩

/-- A word whose first character does not come again is cut out where it stands, unless it occurs
before that: no occurrence reaches from there into this one. -/
theorem cut?_eq_some_iff (hc : c ∉ word) :
    cut? (c :: word) text = some (before, after) ↔
      text = before ++ c :: word ++ after ∧ ¬ c :: word <:+: before := by
  induction text generalizing before with
  | nil => simp [cut?]
  | cons d text ih =>
    rw [cut?_cons_eq_some_iff]
    cases before with
    | nil => simp
    | cons b before =>
      have hreach : text = before ++ c :: word ++ after →
          (c :: word <+: d :: text ↔ c :: word <+: d :: before) := by
        rintro rfl
        rw [List.cons_prefix_cons, List.cons_prefix_cons]
        refine and_congr_right fun _ => ⟨fun h => ?_, fun h => ?_⟩
        · rw [List.append_assoc, List.cons_append] at h
          exact prefix_of_prefix_append hc h
        · rw [List.append_assoc]
          exact h.trans (List.prefix_append ..)
      rw [List.infix_cons_iff]
      grind

theorem cut?_mark_eq_some_iff :
    cut? [c] text = some (before, after) ↔ text = before ++ c :: after ∧ c ∉ before := by
  rw [cut?_eq_some_iff List.not_mem_nil, List.append_assoc, List.singleton_append,
    List.singleton_infix_iff]

theorem intercalate_append (hne : parts ≠ []) :
    [separator].intercalate (parts ++ more) =
      [separator].intercalate parts ++ more.flatMap (separator :: ·) := by
  obtain ⟨part, parts, rfl⟩ := List.exists_cons_of_ne_nil hne
  rw [List.cons_append, intercalate_cons, intercalate_cons, List.flatMap_append, List.append_assoc]

/-- Parts in front of others are found again. -/
theorem split_intercalate_append (hne : parts ≠ []) (h : ∀ part ∈ parts, separator ∉ part) :
    split separator ([separator].intercalate parts ++ separator :: text) =
      parts ++ split separator text := by
  induction parts with
  | nil => exact absurd rfl hne
  | cons part parts ih =>
    obtain ⟨hpart, hparts⟩ := List.forall_mem_cons.mp h
    cases parts with
    | nil =>
      rw [List.intercalate_singleton, split_append_cons hpart]
      rfl
    | cons next parts =>
      have hrest := ih (List.cons_ne_nil next parts) hparts
      rw [List.intercalate_cons_cons, List.append_assoc, List.append_assoc, List.singleton_append,
        split_append_cons hpart, hrest]
      rfl

theorem not_mem_intercalate (hc : c ≠ separator) (hsep : ∀ part ∈ parts, separator ∉ part)
    (h : ∀ part ∈ parts, c ∉ part) : c ∉ [separator].intercalate parts := by
  intro hmem
  cases parts with
  | nil => simp at hmem
  | cons part parts =>
    obtain ⟨found, hfound, hmem⟩ := exists_mem_split hc hmem
    rw [split_intercalate (List.cons_ne_nil part parts) hsep] at hfound
    exact h found hfound hmem

end Pageviews.Text
