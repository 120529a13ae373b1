import Mathlib.Data.List.TakeWhile
import Pageviews.Text.Blank

/-! What trimming leaves of a text. Main statement: the one part that does not begin or end with a
character of the class, and has only such characters around it. -/
namespace Pageviews.Text

variable {p : Char → Bool} {text inner : List Char}

/-- A text is another one between characters of a class, and that one does not begin or end with
such a character. -/
structure TrimsTo (p : Char → Bool) (text inner : List Char) : Prop where
  around : ∃ left right, text = left ++ inner ++ right ∧ (∀ c ∈ left, p c = true) ∧
    ∀ c ∈ right, p c = true
  head : ∀ c, inner.head? = some c → p c = false
  last : ∀ c, inner.getLast? = some c → p c = false

theorem dropWhile_of_head? (h : ∀ c, text.head? = some c → p c = false) :
    text.dropWhile p = text := by
  cases text with
  | nil => rfl
  | cons c text => exact List.dropWhile_cons_of_neg (by simp [h c rfl])

/-- Characters of the class are dropped up to a part that begins with another one. -/
theorem dropWhile_append_of_head? {left right : List Char} (hleft : ∀ c ∈ left, p c = true)
    (hne : inner ≠ []) (h : ∀ c, inner.head? = some c → p c = false) :
    (left ++ inner ++ right).dropWhile p = inner ++ right := by
  obtain ⟨c, rest, rfl⟩ := List.exists_cons_of_ne_nil hne
  rw [List.append_assoc, List.dropWhile_append_of_pos hleft]
  exact dropWhile_of_head? fun d hd => h d hd

theorem dropWhile_reverse_of_getLast? (h : ∀ c, inner.getLast? = some c → p c = false) :
    inner.reverse.dropWhile p = inner.reverse :=
  dropWhile_of_head? fun c hc => h c (by rwa [List.head?_reverse] at hc)

theorem TrimsTo.eq_trimWhere (h : TrimsTo p text inner) : inner = trimWhere p text := by
  obtain ⟨left, right, rfl, hleft, hright⟩ := h.around
  rw [trimWhere]
  rcases eq_or_ne inner [] with rfl | hne
  · have hall : ∀ c ∈ left ++ [] ++ right, p c = true := by
      rw [List.append_nil, List.forall_mem_append]
      exact ⟨hleft, hright⟩
    rw [List.dropWhile_eq_nil_iff.mpr hall]
    rfl
  · have hright' : ∀ c ∈ right.reverse, p c = true := fun c hc => hright c (List.mem_reverse.mp hc)
    rw [dropWhile_append_of_head? hleft hne h.head, List.reverse_append,
      List.dropWhile_append_of_pos hright', dropWhile_reverse_of_getLast? h.last,
      List.reverse_reverse]

theorem trimsTo_trimWhere (p : Char → Bool) (text : List Char) :
    TrimsTo p text (trimWhere p text) := by
  let rest := text.dropWhile p
  have hrest : rest = trimWhere p text ++ (rest.reverse.takeWhile p).reverse := by
    rw [trimWhere, ← List.reverse_append, List.takeWhile_append_dropWhile, List.reverse_reverse]
  have hblank (text : List Char) : ∀ c ∈ text.takeWhile p, p c = true := fun c hc =>
    List.mem_takeWhile_imp hc
  refine ⟨⟨text.takeWhile p, (rest.reverse.takeWhile p).reverse, ?_, hblank text, ?_⟩, ?_, ?_⟩
  · rw [List.append_assoc, ← hrest, List.takeWhile_append_dropWhile]
  · exact fun c hc => hblank _ c (List.mem_reverse.mp hc)
  · -- what is left is a lead of the text behind its first part
    intro c hc
    have hlead : rest.head? = some c := by rw [hrest, List.head?_append, hc, Option.some_or]
    have hnot := List.head?_dropWhile_not p text
    rw [show text.dropWhile p = rest from rfl, hlead] at hnot
    simpa using hnot
  · intro c hc
    rw [trimWhere, List.getLast?_reverse] at hc
    have hnot := List.head?_dropWhile_not p rest.reverse
    rw [show (text.dropWhile p).reverse = rest.reverse from rfl] at hc
    rw [hc] at hnot
    simpa using hnot

theorem trimsTo_iff : TrimsTo p text inner ↔ inner = trimWhere p text := by
  constructor
  · exact TrimsTo.eq_trimWhere
  · rintro rfl
    exact trimsTo_trimWhere p text

theorem trimWhere_isInfix (p : Char → Bool) (text : List Char) : trimWhere p text <:+: text := by
  obtain ⟨left, right, htext, -, -⟩ := (trimsTo_trimWhere p text).around
  exact ⟨left, right, htext.symm⟩

/-- A part that does not begin or end with a character of the class is not trimmed, whatever
follows. -/
theorem prefix_trimWhere {left right : List Char} (hleft : ∀ c ∈ left, p c = true)
    (hhead : ∀ c, inner.head? = some c → p c = false)
    (hlast : ∀ c, inner.getLast? = some c → p c = false) :
    inner <+: trimWhere p (left ++ inner ++ right) := by
  rcases eq_or_ne inner [] with rfl | hne
  · exact List.nil_prefix
  rw [trimWhere, dropWhile_append_of_head? hleft hne hhead, List.reverse_append,
    List.dropWhile_append]
  split
  · have hwhole : (inner.reverse.dropWhile p).reverse = inner := by
      rw [dropWhile_reverse_of_getLast? hlast, List.reverse_reverse]
    exact hwhole.symm ▸ List.prefix_rfl
  · rw [List.reverse_append, List.reverse_reverse]
    exact List.prefix_append ..

end Pageviews.Text
