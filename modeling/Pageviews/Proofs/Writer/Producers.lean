import Mathlib.Data.List.Perm.Basic
import Mathlib.Data.List.Range
import Pageviews.Proofs.Writer.Frame

/-! What becomes of the rows of each producer. -/
namespace Pageviews.Writer

variable {α : Type}

def Step.program? : Step α → Option (List α)
  | store rows => some rows
  | _ => none

/-- The rows of all producers that the steps start, by number. -/
def programs (steps : List (Step α)) : List (List α) := steps.filterMap Step.program?

/-- Letting time pass starts no producer. -/
theorem programs_filter (steps : List (Step α)) :
    programs (steps.filter (!·.isAdvance)) = programs steps := by
  rw [programs, List.filterMap_filter, programs]
  congr 1
  funext step
  cases step <;> rfl

def State.acceptedOf (s : State α) (id : Nat) : List α :=
  (s.accepted.filter (·.producer = id)).map Admission.row

/-- Each producer has had a first part of its rows accepted, and knows how many. -/
structure Accounted (s : State α) (programs : List (List α)) : Prop where
  spawned : s.spawned = programs.length
  ids : (s.roster.map Entry.id ++ s.ended.map Ended.id).Perm (List.range s.spawned)
  fresh : ∀ a ∈ s.accepted, a.producer < s.spawned
  active : ∀ e ∈ s.roster, programs[e.id]? = some (s.acceptedOf e.id ++ e.rows) ∧
    e.stored = (s.acceptedOf e.id).length
  ended : ∀ e ∈ s.ended, ∃ rows, programs[e.id]? = some (s.acceptedOf e.id ++ rows) ∧
    e.stored = (s.acceptedOf e.id).length ∧ (e.complete = true ↔ rows = [])

namespace State

theorem acceptedOf_eq_nil {s : State α} {id : Nat} (h : ∀ a ∈ s.accepted, a.producer ≠ id) :
    s.acceptedOf id = [] := by
  have hf : s.accepted.filter (·.producer = id) = [] := by simpa using h
  rw [acceptedOf, hf, List.map_nil]

theorem acceptedOf_accept (s : State α) (producer : Producer α) (row : α) (rows : List α)
    (others : List (Producer α)) (id : Nat) :
    (s.accept producer row rows others).acceptedOf id =
      s.acceptedOf id ++ if producer.id = id then [row] else [] := by
  unfold acceptedOf accept
  rw [List.filter_append, List.map_append]
  by_cases h : producer.id = id <;> simp [h]

end State

namespace Accounted

variable {s t : State α} {programs : List (List α)}

theorem of_spawn? {policy : Policy} (h : State.spawn? policy = some s) : Accounted s [] := by
  obtain rfl := State.eq_fresh h
  exact ⟨rfl, List.Perm.refl _, nofun, nofun, nofun⟩

theorem of_keeps (h : Accounted s programs) (hk : Keeps s t) : Accounted t programs := by
  have ha : t.acceptedOf = s.acceptedOf := by
    funext id
    rw [State.acceptedOf, hk.accepted, State.acceptedOf]
  refine ⟨hk.spawned.trans h.spawned, ?_, ?_, ?_, ?_⟩
  · rw [hk.roster, hk.ended, hk.spawned]; exact h.ids
  · rw [hk.accepted, hk.spawned]; exact h.fresh
  · rw [hk.roster, ha]; exact h.active
  · rw [hk.ended, ha]; exact h.ended

/-- The order of those that have not ended does not matter. -/
theorem of_perm (h : Accounted s programs) (hr : t.roster.Perm s.roster)
    (hs : t.spawned = s.spawned) (ha : t.accepted = s.accepted) (he : t.ended = s.ended) :
    Accounted t programs := by
  have ha' : t.acceptedOf = s.acceptedOf := by
    funext id
    rw [State.acceptedOf, ha, State.acceptedOf]
  refine ⟨hs.trans h.spawned, ?_, ?_, ?_, ?_⟩
  · rw [he, hs]; exact ((hr.map _).append_right _).trans h.ids
  · rw [ha, hs]; exact h.fresh
  · rw [ha']; exact fun e hm => h.active e (hr.mem_iff.mp hm)
  · rw [he, ha']; exact h.ended

theorem retire (h : Accounted s programs) {producer : Producer α} {others : List (Producer α)}
    (hr : s.ready = producer :: others) {complete : Bool}
    (hc : complete = true ↔ producer.rows = []) :
    Accounted (s.retire producer others complete) programs := by
  have hroster := State.roster_of_ready hr
  refine ⟨h.spawned, ?_, h.fresh, ?_, ?_⟩
  · refine List.Perm.trans ?_ h.ids
    rw [hroster]
    simp only [State.roster, State.retire, List.map_cons, List.map_append, List.map_nil,
      List.cons_append]
    rw [← List.append_assoc]
    exact List.perm_append_singleton _ _
  · intro e he
    apply h.active e
    rw [hroster]
    exact List.mem_cons_of_mem _ he
  · intro e he
    rcases List.mem_append.mp he with he | he
    · exact h.ended e he
    · obtain ⟨hp, hs⟩ := h.active ⟨producer.id, producer.rows, producer.stored⟩
        (by rw [hroster]; exact List.mem_cons_self)
      rw [List.mem_singleton.mp he]
      exact ⟨producer.rows, hp, hs, hc⟩

theorem accept (h : Accounted s programs) {producer : Producer α} {others : List (Producer α)}
    (hr : s.ready = producer :: others) {row : α} {rows : List α}
    (hp : producer.rows = row :: rows) :
    Accounted (s.accept producer row rows others) programs := by
  have hroster := State.roster_of_ready hr
  have hids := h.ids
  have hnodup := h.ids.nodup_iff.mpr List.nodup_range
  rw [hroster, List.map_cons, List.cons_append] at hids hnodup
  have hnew := (List.nodup_cons.mp hnodup).1
  rw [List.mem_append, not_or] at hnew
  have hmem : producer.id ∈ List.range s.spawned := hids.mem_iff.mp List.mem_cons_self
  -- the other producers have other numbers, so what was accepted of them is the same
  have hother : ∀ id, producer.id ≠ id →
      (s.accept producer row rows others).acceptedOf id = s.acceptedOf id := by
    intro id hid
    rw [State.acceptedOf_accept, if_neg hid, List.append_nil]
  refine ⟨h.spawned, hids, ?_, ?_, ?_⟩
  · intro a ha
    rcases List.mem_append.mp ha with ha | ha
    · exact h.fresh a ha
    · rw [List.mem_singleton.mp ha]
      exact List.mem_range.mp hmem
  · intro e he
    rcases List.mem_cons.mp he with rfl | he
    · obtain ⟨hprog, hstored⟩ := h.active ⟨producer.id, producer.rows, producer.stored⟩
        (by rw [hroster]; exact List.mem_cons_self)
      rw [State.acceptedOf_accept, if_pos rfl, List.append_assoc]
      rw [hp] at hprog
      refine ⟨hprog, ?_⟩
      rw [List.length_append, ← hstored]
      rfl
    · rw [hother e.id fun hid => hnew.1 (List.mem_map.mpr ⟨e, he, hid.symm⟩)]
      exact h.active e (by rw [hroster]; exact List.mem_cons_of_mem _ he)
  · intro e he
    rw [hother e.id fun hid => hnew.2 (List.mem_map.mpr ⟨e, he, hid.symm⟩)]
    exact h.ended e he

theorem spawn (h : Accounted s programs) (rows : List α) :
    Accounted (s.spawnProducer rows) (programs ++ [rows]) := by
  have hroster : (s.spawnProducer rows).roster.Perm (⟨s.spawned, rows, 0⟩ :: s.roster) := by
    simp only [State.roster, State.spawnProducer, List.map_append, List.map_cons,
      List.append_assoc, List.cons_append, List.nil_append]
    exact List.perm_middle
  have hold : ∀ {id : Nat} {program : List α}, programs[id]? = some program →
      (programs ++ [rows])[id]? = some program := by
    intro id program hid
    rw [List.getElem?_append_left (List.getElem?_eq_some_iff.mp hid).1]
    exact hid
  refine ⟨by simp [State.spawnProducer, h.spawned], ?_, ?_, ?_, ?_⟩
  · apply ((hroster.map Entry.id).append_right _).trans
    have hlast : (s.spawned :: List.range s.spawned).Perm (List.range (s.spawned + 1)) := by
      rw [List.range_succ]
      exact (List.perm_append_singleton _ _).symm
    exact (h.ids.cons s.spawned).trans hlast
  · exact fun a ha => Nat.lt_succ_of_lt (h.fresh a ha)
  · intro e he
    rcases List.mem_cons.mp (hroster.mem_iff.mp he) with rfl | he
    · have hnil : (s.spawnProducer rows).acceptedOf s.spawned = [] :=
        State.acceptedOf_eq_nil fun a ha => Nat.ne_of_lt (h.fresh a ha)
      rw [hnil]
      refine ⟨?_, rfl⟩
      rw [h.spawned, List.getElem?_concat_length]
      rfl
    · obtain ⟨hprog, hstored⟩ := h.active e he
      exact ⟨hold hprog, hstored⟩
  · intro e he
    obtain ⟨left, hprog, hrest⟩ := h.ended e he
    exact ⟨left, hold hprog, hrest⟩

end Accounted

/-- Every event keeps the account. -/
theorem Transition.accounted {s t : State α} {event : Event α} {steps : List (Step α)}
    (h : Transition s event t) (hs : Accounted s (programs steps)) :
    Accounted t (programs (steps ++ event.step?.toList)) := by
  rw [programs, List.filterMap_append]
  cases h with
  | loop h =>
    simp only [Event.step?, Option.toList_none, List.filterMap_nil, List.append_nil]
    exact hs.of_keeps h.keeps
  | produce hr h =>
    simp only [Event.step?, Option.toList_none, List.filterMap_nil, List.append_nil]
    cases h with
    | done hp => exact hs.retire hr (by simp [hp])
    | refused hp => exact hs.retire hr (by simp [hp])
    | accepted hp => exact hs.accept hr hp
    | waits =>
      refine hs.of_perm ?_ rfl rfl rfl
      rw [State.roster_of_ready hr]
      simp only [State.roster, List.map_append, List.map_cons, List.map_nil]
      rw [← List.append_assoc]
      exact List.perm_append_singleton _ _
  | clock =>
    simp only [Event.step?, Option.toList_none, List.filterMap_nil, List.append_nil]
    exact hs.of_perm (List.Perm.refl _) rfl rfl rfl
  | @step step ha =>
    cases step with
    | store rows => exact hs.spawn rows
    | advance => cases ha
    | _ =>
      simp only [Event.step?, Option.toList_some, List.filterMap_cons, Step.program?,
        List.filterMap_nil, List.append_nil]
      exact hs.of_perm (List.Perm.refl _) rfl rfl rfl

theorem Path.accounted_from {s t : State α} {events : List (Event α)} {steps : List (Step α)}
    (h : Path s events t) (hs : Accounted s (programs steps)) :
    Accounted t (programs (steps ++ events.filterMap Event.step?)) := by
  induction h with
  | refl => rwa [List.filterMap_nil, List.append_nil]
  | @snoc _ _ events event _ ht ih =>
    have he : (events ++ [event]).filterMap Event.step? =
        events.filterMap Event.step? ++ event.step?.toList := by
      rw [List.filterMap_append]
      cases h : event.step? <;> simp [h]
    rw [he, ← List.append_assoc]
    exact ht.accounted ih

theorem Path.accounted {policy : Policy} {s t : State α} {events : List (Event α)}
    (hs : State.spawn? policy = some s) (h : Path s events t) :
    Accounted t (programs (events.filterMap Event.step?)) := by
  have hnone : Accounted s (programs []) := .of_spawn? hs
  exact h.accounted_from hnone

end Pageviews.Writer
