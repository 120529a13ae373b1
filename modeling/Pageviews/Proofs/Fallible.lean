import Mathlib.Data.List.Forall2

/-! Computations that can fail, one after the other. -/
namespace Pageviews

theorem mapM_eq_some_iff {α β : Type} {f : α → Option β} {list : List α} {images : List β} :
    list.mapM f = some images ↔ List.Forall₂ (fun x y => f x = some y) list images := by
  induction list generalizing images with
  | nil => cases images <;> simp
  | cons x list ih =>
    rw [List.mapM_cons]
    cases hx : f x with
    | none => cases images <;> simp [hx]
    | some y =>
      cases hlist : list.mapM f with
      | none => cases images <;> simp [hx, ← ih, hlist]
      | some rest => cases images <;> simp [hx, ← ih, hlist]

theorem exists_image_of_mapM {α β : Type} {f : α → Option β} {list : List α} {images : List β}
    (h : list.mapM f = some images) {x : α} (hx : x ∈ list) : ∃ y ∈ images, f x = some y := by
  rw [mapM_eq_some_iff] at h
  induction h with
  | nil => cases hx
  | cons hfirst _ ih =>
    rcases List.mem_cons.mp hx with rfl | hx
    · exact ⟨_, List.mem_cons_self, hfirst⟩
    · obtain ⟨y, hmem, hy⟩ := ih hx
      exact ⟨y, List.mem_cons_of_mem _ hmem, hy⟩

theorem exists_preimage_of_mapM {α β : Type} {f : α → Option β} {list : List α} {images : List β}
    (h : list.mapM f = some images) {y : β} (hy : y ∈ images) : ∃ x ∈ list, f x = some y := by
  rw [mapM_eq_some_iff] at h
  induction h with
  | nil => cases hy
  | cons hfirst _ ih =>
    rcases List.mem_cons.mp hy with rfl | hy
    · exact ⟨_, List.mem_cons_self, hfirst⟩
    · obtain ⟨x, hmem, hx⟩ := ih hy
      exact ⟨x, List.mem_cons_of_mem _ hmem, hx⟩

theorem mapM_eq_ok_iff {ε α β : Type} {f : α → Except ε β} {list : List α} {images : List β} :
    list.mapM f = .ok images ↔ List.Forall₂ (fun x y => f x = .ok y) list images := by
  induction list generalizing images with
  | nil => cases images <;> simp [pure, Except.pure]
  | cons x list ih =>
    rw [List.mapM_cons]
    cases hx : f x with
    | error => cases images <;> simp [hx, bind, Except.bind]
    | ok y =>
      cases hlist : list.mapM f with
      | error => cases images <;> simp [hx, ← ih, hlist, bind, Except.bind]
      | ok rest =>
        cases images <;> simp [hx, ← ih, hlist, bind, Except.bind, pure, Except.pure]

theorem bind_eq_ok_iff {ε α β : Type} {x : Except ε α} {f : α → Except ε β} {b : β} :
    x >>= f = .ok b ↔ ∃ a, x = .ok a ∧ f a = .ok b := by
  cases x with
  | error cause => exact ⟨nofun, fun ⟨_, h, _⟩ => nomatch h⟩
  | ok a => exact ⟨fun h => ⟨a, rfl, h⟩, fun ⟨_, h, hf⟩ => by cases h; exact hf⟩

theorem bind_eq_error_iff {ε α β : Type} {x : Except ε α} {f : α → Except ε β} {e : ε} :
    x >>= f = .error e ↔ x = .error e ∨ ∃ a, x = .ok a ∧ f a = .error e := by
  cases x with
  | error fault => simp [bind, Except.bind]
  | ok a => simp [bind, Except.bind]

theorem mapError_eq_ok_iff {ε δ α : Type} {x : Except ε α} {f : ε → δ} {a : α} :
    x.mapError f = .ok a ↔ x = .ok a := by
  cases x with
  | error cause => exact ⟨nofun, nofun⟩
  | ok => exact Iff.of_eq (by rw [Except.mapError, Except.ok.injEq, Except.ok.injEq])

end Pageviews
