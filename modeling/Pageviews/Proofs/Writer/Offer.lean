import Mathlib.Data.List.Nodup
import Pageviews.Proofs.Writer.Acceptance
import Pageviews.Proofs.Writer.Turns

/-! Offering one row to a writer at rest. Main statements: a closed writer refuses it and an open
one with a free slot accepts it, both at once; otherwise the producer waits, and what it is told
later is what became of its row. -/
namespace Pageviews.Writer

variable {α : Type} {s t u : State α} {row : α}

namespace State

theorem runProducers_of_ready_nil (h : s.ready = []) : s.runProducers = s := by
  rw [runProducers]
  split
  · rfl
  · next hr =>
    rw [h] at hr
    cases hr

theorem settle_of_isAtRest (h : s.IsAtRest) : s.settle = s := by
  rw [settle, runLoop_of_move h.1, dif_pos h.2]

theorem hasFreeSlot_spawnProducer (s : State α) (rows : List α) :
    (s.spawnProducer rows).hasFreeSlot = s.hasFreeSlot := by
  simp [hasFreeSlot, spawnProducer]

theorem take_store_of_isClosed (hr : s.IsAtRest) (hc : s.isClosed = true) (row : α) :
    s.take (.store [row]) =
      { s with
        ready := []
        spawned := s.spawned + 1
        ended := s.ended ++ [⟨s.spawned, 0, false⟩] } := by
  have hproduce : (s.spawnProducer [row]).produce ⟨s.spawned, [row], 0, false⟩ [] =
      (s.spawnProducer [row]).retire ⟨s.spawned, [row], 0, false⟩ [] false := if_pos hc
  have hrest : ((s.spawnProducer [row]).retire ⟨s.spawned, [row], 0, false⟩ [] false).IsAtRest :=
    ⟨move_producers hr.1 (by simp [isAbandoned, hr.2, spawnProducer]), rfl⟩
  rw [take, perform, settle_spawnProducer hr, hproduce, runProducers_of_ready_nil rfl,
    settle_of_isAtRest hrest]
  rfl

theorem take_store_of_isFull (hr : s.IsAtRest) (hc : s.isClosed = false)
    (hf : s.hasFreeSlot = false) (row : α) :
    s.take (.store [row]) =
      { s with
        ready := []
        waiting := s.waiting ++ [⟨s.spawned, [row], 0, false⟩]
        spawned := s.spawned + 1 } := by
  have hopen : (s.spawnProducer [row]).isClosed = false := hc
  have hfull : (s.spawnProducer [row]).hasFreeSlot = false := by
    rw [hasFreeSlot_spawnProducer, hf]
  have hproduce : (s.spawnProducer [row]).produce ⟨s.spawned, [row], 0, false⟩ [] =
      { s with
        ready := []
        waiting := s.waiting ++ [⟨s.spawned, [row], 0, false⟩]
        spawned := s.spawned + 1 } := by
    simp only [produce, hopen, hfull]
    rfl
  rw [take, perform, settle_spawnProducer hr, hproduce, runProducers_of_ready_nil rfl,
    settle_of_isAtRest ⟨move_producers hr.1 (by simp [isAbandoned]), rfl⟩]

def admitted (s : State α) (row : α) : State α :=
  { s with
    ready := []
    queue := s.queue ++ [row]
    accepted := s.accepted ++ [⟨s.now, s.spawned, row⟩]
    spawned := s.spawned + 1
    ended := s.ended ++ [⟨s.spawned, 1, true⟩] }

theorem take_store_of_hasFreeSlot (hr : s.IsAtRest) (hc : s.isClosed = false)
    (hf : s.hasFreeSlot = true) (row : α) : s.take (.store [row]) = (s.admitted row).settle := by
  have hopen : (s.spawnProducer [row]).isClosed = false := hc
  have hfree : (s.spawnProducer [row]).hasFreeSlot = true := by
    rw [hasFreeSlot_spawnProducer, hf]
  have hproduce : (s.spawnProducer [row]).produce ⟨s.spawned, [row], 0, false⟩ [] =
      (s.spawnProducer [row]).accept ⟨s.spawned, [row], 0, false⟩ row [] [] := by
    simp only [produce, hopen, hfree]
    rfl
  rw [take, perform, settle_spawnProducer hr, hproduce, runProducers_of_ready rfl]
  exact congrArg settle (runProducers_of_ready_nil rfl)

/-- Whether all rows of a producer were accepted, once it has been told so. -/
def told? (s : State α) (id : Nat) : Option Bool :=
  (s.ended.find? (·.id = id)).map Ended.complete

end State

namespace Accounted

variable {programs : List (List α)}

theorem store {steps : List (Step α)} (h : Accounted s (Writer.programs steps)) (rows : List α) :
    Accounted (s.spawnProducer rows) (Writer.programs (steps ++ [.store rows])) := by
  rw [Writer.programs, List.filterMap_append]
  exact h.spawn rows

theorem told?_eq_some_iff (h : Accounted s programs) {id : Nat} {complete : Bool} :
    s.told? id = some complete ↔ ∃ e ∈ s.ended, e.id = id ∧ e.complete = complete := by
  constructor
  · intro htold
    obtain ⟨e, he, hcomplete⟩ := Option.map_eq_some_iff.mp htold
    exact ⟨e, List.mem_of_find?_eq_some he, by simpa using List.find?_some he, hcomplete⟩
  · rintro ⟨e, he, rfl, rfl⟩
    have hnodup := (List.nodup_append.mp (h.ids.nodup_iff.mpr List.nodup_range)).2.1
    cases hfind : s.ended.find? (·.id = e.id) with
    | none => simpa using List.find?_eq_none.mp hfind e he
    | some f =>
      have hid : f.id = e.id := by simpa using List.find?_some hfind
      have hsame := List.inj_on_of_nodup_map hnodup (List.mem_of_find?_eq_some hfind) he hid
      rw [State.told?, hfind, Option.map_some, hsame]

theorem told?_eq_none_iff {id : Nat} : s.told? id = none ↔ ∀ e ∈ s.ended, e.id ≠ id := by
  simp [State.told?]

/-- A producer that has not started has been told nothing. -/
theorem told?_spawned (h : Accounted s programs) : s.told? s.spawned = none := by
  rw [told?_eq_none_iff]
  intro e he hid
  have hold := h.ids.mem_iff.mp (List.mem_append_right _ (List.mem_map_of_mem he))
  rw [hid, List.mem_range] at hold
  exact Nat.lt_irrefl _ hold

end Accounted

/-- What a producer with a single row has been told is what became of the row. While it has been
told nothing, the writer is open and full. -/
structure Fate (s : State α) (id : Nat) (row : α) : Prop where
  taken : s.told? id = some true → s.acceptedOf id = [row]
  refused : s.told? id = some false → s.isClosed = true ∧ s.acceptedOf id = []
  pending : s.told? id = none → s.IsAtRest →
    s.isClosed = false ∧ s.hasFreeSlot = false ∧ s.acceptedOf id = []

/-- What holds in every run: of the slots, of what the producers have done, and that nobody is
refused while the writer is open. -/
structure Sound (s : State α) : Prop where
  slots : Slots s
  accounted : ∃ steps, Accounted s (programs steps)
  honest : ∀ e ∈ s.ended, e.complete = false → s.isClosed = true

namespace Sound

theorem of_spawn? {policy : Policy} (h : State.spawn? policy = some s) : Sound s where
  slots := .of_spawn? h
  accounted := ⟨[], .of_spawn? h⟩
  honest := by
    obtain rfl := State.eq_fresh h
    exact nofun

theorem transition (h : Sound s) {event : Event α} (ht : Transition s event t) : Sound t := by
  obtain ⟨steps, haccounted⟩ := h.accounted
  refine ⟨h.slots.transition ht, ⟨_, ht.accounted haccounted⟩, fun e he hrefused => ?_⟩
  -- a writer that is closed stays closed, so only who ends now matters
  have hold : e ∈ s.ended → t.isClosed = true := fun hmem =>
    ((Path.single ht).released (h.honest e hmem hrefused)).closed
  cases ht with
  | loop hm => exact hold (hm.keeps.ended ▸ he)
  | produce _ hp =>
    cases hp with
    | done =>
      rcases List.mem_append.mp he with he | he
      · exact hold he
      · rw [List.mem_singleton.mp he] at hrefused
        cases hrefused
    | refused _ hc => exact hc
    | accepted | waits => exact hold he
  | clock => exact hold he
  | @step step ha =>
    cases step with
    | advance => cases ha
    | _ => exact hold he

theorem path (h : Sound s) {events : List (Event α)} (hp : Path s events t) : Sound t :=
  hp.invariant (fun ht hs => hs.transition ht) h

theorem spawnProducer (h : Sound s) (rows : List α) : Sound (s.spawnProducer rows) := by
  obtain ⟨steps, haccounted⟩ := h.accounted
  exact ⟨h.slots.spawnProducer rows, ⟨_, haccounted.store rows⟩, h.honest⟩

end Sound

theorem Slots.full_of_waiting (h : Slots s) (hr : s.ready = []) (hw : s.waiting ≠ []) :
    s.isClosed = false ∧ s.hasFreeSlot = false := by
  have hfull := h.full hw
  constructor
  · by_contra hc
    exact hw (h.closed (by simpa using hc))
  · rw [State.reserved, hr] at hfull
    simp [State.hasFreeSlot, hr, ← hfull]

theorem Slots.waiting_of_hasFreeSlot (h : Slots s) (hr : s.ready = [])
    (hf : s.hasFreeSlot = true) : s.waiting = [] := by
  by_contra hw
  rw [(h.full_of_waiting hr hw).2] at hf
  cases hf

theorem Accounted.fate {programs : List (List α)} (h : Accounted s programs) (hslots : Slots s)
    (honest : ∀ e ∈ s.ended, e.complete = false → s.isClosed = true) {id : Nat}
    (hid : programs[id]? = some [row]) : Fate s id row := by
  have hsplit {left : List α} (hleft : programs[id]? = some (s.acceptedOf id ++ left)) :
      s.acceptedOf id = [] ∧ left = [row] ∨ s.acceptedOf id = [row] ∧ left = [] := by
    rw [hid, Option.some.injEq] at hleft
    exact List.append_eq_singleton_iff.mp hleft.symm
  refine ⟨fun htold => ?_, fun htold => ?_, fun htold hr => ?_⟩
  · obtain ⟨e, he, rfl, hcomplete⟩ := h.told?_eq_some_iff.mp htold
    obtain ⟨left, hleft, -, hdone⟩ := h.ended e he
    rcases hsplit hleft with ⟨-, hne⟩ | ⟨hrow, -⟩
    · rw [hdone.mp hcomplete] at hne
      cases hne
    · exact hrow
  · obtain ⟨e, he, rfl, hcomplete⟩ := h.told?_eq_some_iff.mp htold
    obtain ⟨left, hleft, -, hdone⟩ := h.ended e he
    refine ⟨honest e he hcomplete, ?_⟩
    rcases hsplit hleft with ⟨hnone, -⟩ | ⟨-, hnil⟩
    · exact hnone
    · rw [hdone.mpr hnil] at hcomplete
      cases hcomplete
  · -- who has not ended at rest waits
    have hlt : id < s.spawned := by
      rw [h.spawned]
      exact (List.getElem?_eq_some_iff.mp hid).1
    have hmem := h.ids.mem_iff.mpr (List.mem_range.mpr hlt)
    rcases List.mem_append.mp hmem with hmem | hmem
    · obtain ⟨e, he, rfl⟩ := List.mem_map.mp hmem
      obtain ⟨hprog, -⟩ := h.active e he
      rw [State.roster, hr.2, List.nil_append] at he
      obtain ⟨p, hp, rfl⟩ := List.mem_map.mp he
      obtain ⟨hc, hf⟩ := hslots.full_of_waiting hr.2 (List.ne_nil_of_mem hp)
      refine ⟨hc, hf, ?_⟩
      rcases hsplit hprog with ⟨hnone, -⟩ | ⟨-, hnil⟩
      · exact hnone
      · exact absurd hnil (hslots.waits p hp).2
    · obtain ⟨e, he, hsame⟩ := List.mem_map.mp hmem
      exact absurd hsame (Accounted.told?_eq_none_iff.mp htold e he)

/-- Whatever happens after a row was offered, its producer is told the truth. -/
theorem Sound.fate_of_offer (h : Sound s) (row : α) {events : List (Event α)}
    (hp : Path (s.offer row).1 events u) : Fate u s.spawned row := by
  obtain ⟨steps, haccounted⟩ := h.accounted
  obtain ⟨before, hsettle, -⟩ := State.leads_settle (s.spawnProducer [row])
  have hrun : Path (s.spawnProducer [row]) (before ++ events) u := hsettle.trans hp
  have hsound := (h.spawnProducer [row]).path hrun
  refine (hrun.accounted_from (haccounted.store [row])).fate hsound.slots hsound.honest ?_
  rw [programs, List.append_assoc, List.filterMap_append, ← programs, haccounted.spawned]
  simp [Step.program?]

/-- What an offer comes to at once. -/
inductive Offering (s : State α) (row : α) (t : State α) : Prop where
  | refused (hc : s.isClosed = true) (hq : t.queue = s.queue) (hs : t.store = s.store)
      (ha : t.accepted = s.accepted) (ht : t.told? s.spawned = some false)
  | accepted (hc : s.isClosed = false) (hf : s.hasFreeSlot = true)
      (ha : t.accepted = s.accepted ++ [⟨s.now, s.spawned, row⟩])
      (ht : t.told? s.spawned = some true)
  | waits (hc : s.isClosed = false) (hf : s.hasFreeSlot = false) (hq : t.queue = s.queue)
      (hs : t.store = s.store) (ha : t.accepted = s.accepted) (ht : t.told? s.spawned = none)

theorem Sound.offering (h : Sound s) (hr : s.IsAtRest) (row : α) :
    Offering s row (s.offer row).1 := by
  obtain ⟨steps, haccounted⟩ := h.accounted
  have hnew := haccounted.told?_spawned
  have hold : s.ended.find? (·.id = s.spawned) = none := Option.map_eq_none_iff.mp hnew
  show Offering s row (s.take (.store [row]))
  cases hc : s.isClosed with
  | true =>
    rw [State.take_store_of_isClosed hr hc]
    refine .refused hc rfl rfl rfl ?_
    simp [State.told?, List.find?_append, hold]
  | false =>
    cases hf : s.hasFreeSlot with
    | true =>
      obtain ⟨events, hp, hn⟩ := State.leads_settle (s.admitted row)
      have hroster : (s.admitted row).roster = [] := by
        simp [State.roster, State.admitted, h.slots.waiting_of_hasFreeSlot hr.2 hf]
      rw [State.take_store_of_hasFreeSlot hr hc hf]
      refine .accepted hc hf (hp.quiet (by rw [hn]; rfl) hroster).2 ?_
      obtain ⟨later, hlater⟩ := hp.ended_prefix
      have hended : (s.admitted row).settle.ended =
          s.ended ++ [⟨s.spawned, 1, true⟩] ++ later := hlater.symm
      simp [State.told?, hended, List.find?_append, hold]
    | false =>
      rw [State.take_store_of_isFull hr hc hf]
      exact .waits hc hf rfl rfl rfl hnew

end Pageviews.Writer
