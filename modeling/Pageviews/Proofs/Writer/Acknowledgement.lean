import Pageviews.Proofs.Writer.Ledger
import Pageviews.Proofs.Writer.Slots

/-! What the producers are told. Main statement: each producer that has ended knows how many of its
rows were accepted, which are its first ones, and of a writer that has ended without a failure the
store has just these. -/
namespace Pageviews.Writer

variable {α : Type}

namespace State

/-- The rows in the store that a producer has stored. The store has the accepted rows in the order
in which they were accepted. -/
def sentOf (s : State α) (id : Nat) : List α :=
  ((s.store.sent.flatten.zip s.accepted).filter (·.2.producer = id)).map Prod.fst

theorem sentOf_eq_acceptedOf {s : State α} (h : s.store.sent.flatten = s.acceptedRows) (id : Nat) :
    s.sentOf id = s.acceptedOf id := by
  have hzip : s.acceptedRows.zip s.accepted = s.accepted.map fun a => (a.row, a) := by
    rw [acceptedRows, List.zip_eq_zipWith, List.zipWith_map_left, List.zipWith_self]
  rw [sentOf, h, hzip, List.filter_map, List.map_map]
  rfl

end State

namespace Accounted

variable {s t : State α} {programs more : List (List α)}

theorem exists_acceptedOf (h : Accounted s programs) {id : Nat} (hid : id < s.spawned) :
    ∃ left, programs[id]? = some (s.acceptedOf id ++ left) := by
  rcases List.mem_append.mp (h.ids.mem_iff.mpr (List.mem_range.mpr hid)) with hm | hm
  · obtain ⟨e, he, rfl⟩ := List.mem_map.mp hm
    exact ⟨e.rows, (h.active e he).1⟩
  · obtain ⟨e, he, rfl⟩ := List.mem_map.mp hm
    obtain ⟨left, hprog, -⟩ := h.ended e he
    exact ⟨left, hprog⟩

/-- Of every producer, ended or not, a first part of the rows was accepted. -/
theorem acceptedOf_prefix (h : Accounted s programs) {id : Nat} {rows : List α}
    (hrows : programs[id]? = some rows) : s.acceptedOf id <+: rows := by
  have hid : id < s.spawned := by
    rw [h.spawned]
    exact (List.getElem?_eq_some_iff.mp hrows).1
  obtain ⟨left, hprog⟩ := h.exists_acceptedOf hid
  rw [hrows, Option.some.injEq] at hprog
  exact ⟨left, hprog.symm⟩

/-- An accepted row is one of those of its producer. -/
theorem exists_mem_program (h : Accounted s programs) {a : Admission α} (ha : a ∈ s.accepted) :
    ∃ rows, programs[a.producer]? = some rows ∧ a.row ∈ rows := by
  obtain ⟨left, hprog⟩ := h.exists_acceptedOf (h.fresh a ha)
  refine ⟨_, hprog, List.mem_append_left _ (List.mem_map_of_mem ?_)⟩
  exact List.mem_filter.mpr ⟨ha, decide_eq_true rfl⟩

theorem ended_eq_take (h : Accounted s programs) {e : Ended} (he : e ∈ s.ended) :
    ∃ rows, programs[e.id]? = some rows ∧ e.stored ≤ rows.length ∧
      s.acceptedOf e.id = rows.take e.stored ∧ (e.complete = true ↔ e.stored = rows.length) := by
  obtain ⟨left, hprog, hstored, hcomplete⟩ := h.ended e he
  refine ⟨_, hprog, ?_, ?_, ?_⟩
  · rw [List.length_append, ← hstored]
    exact Nat.le_add_right _ _
  · rw [hstored, List.take_left]
  · rw [hcomplete, List.length_append, ← hstored, ← List.length_eq_zero_iff]
    omega

/-- What was accepted of a producer that has ended does not change any more. -/
theorem acceptedOf_eq (h : Accounted s programs) (ht : Accounted t (programs ++ more)) {e : Ended}
    (he : e ∈ s.ended) (he' : e ∈ t.ended) : t.acceptedOf e.id = s.acceptedOf e.id := by
  obtain ⟨rows, hprog, -, hrows, -⟩ := h.ended_eq_take he
  obtain ⟨rows', hprog', -, hrows', -⟩ := ht.ended_eq_take he'
  rw [List.getElem?_append_left (List.getElem?_eq_some_iff.mp hprog).1, hprog,
    Option.some.injEq] at hprog'
  rw [hrows, hrows', hprog']

/-- Where the rows tell who has stored them, those of one producer can be picked out. -/
theorem filter_origin (h : Accounted s programs) {origin : α → Nat}
    (ho : ∀ (id : Nat) (rows : List α), programs[id]? = some rows → ∀ row ∈ rows, origin row = id)
    (id : Nat) : s.acceptedRows.filter (origin · = id) = s.acceptedOf id := by
  have hsame : ∀ a ∈ s.accepted, decide (origin a.row = id) = decide (a.producer = id) := by
    intro a ha
    obtain ⟨rows, hprog, hrow⟩ := h.exists_mem_program ha
    rw [ho a.producer rows hprog a.row hrow]
  rw [State.acceptedRows, List.filter_map, State.acceptedOf]
  congr 1
  exact List.filter_congr hsame

end Accounted

/-- What the producers that were started by some steps have been told, and what is true. -/
structure Truthful (steps : List (Step α)) (s : State α) : Prop where
  once : (s.ended.map Ended.id).Nodup
  ended : ∀ e ∈ s.ended, ∃ rows, (programs steps)[e.id]? = some rows ∧ e.stored ≤ rows.length ∧
    s.acceptedOf e.id = rows.take e.stored ∧ (e.complete = true ↔ e.stored = rows.length)
  /-- This holds also of producers that have not ended. -/
  accepted : ∀ (id : Nat) (rows : List α), (programs steps)[id]? = some rows →
    s.acceptedOf id <+: rows
  all : s.IsAtRest → s.hasEnded = true → ∀ id < (programs steps).length, ∃ e ∈ s.ended, e.id = id
  written : s.phase = .ended none → ∀ e ∈ s.ended, ∀ rows, (programs steps)[e.id]? = some rows →
    s.sentOf e.id = rows.take e.stored
  /-- The same where the rows tell who has stored them. -/
  marked : s.phase = .ended none → ∀ origin : α → Nat,
    (∀ (id : Nat) (rows : List α), (programs steps)[id]? = some rows →
      ∀ row ∈ rows, origin row = id) →
    ∀ e ∈ s.ended, ∀ rows, (programs steps)[e.id]? = some rows →
      s.store.sent.flatten.filter (origin · = e.id) = rows.take e.stored

theorem Accounted.truthful {steps : List (Step α)} {s : State α}
    (h : Accounted s (programs steps)) (hl : s.Ledger) (hslots : Slots s) : Truthful steps s := by
  have htold : ∀ e ∈ s.ended, ∀ rows, (programs steps)[e.id]? = some rows →
      s.acceptedOf e.id = rows.take e.stored := by
    intro e he rows hrows
    obtain ⟨rows', hprog, -, htake, -⟩ := h.ended_eq_take he
    rw [hrows, Option.some.injEq] at hprog
    rw [htake, hprog]
  have hsent : s.phase = .ended none → s.store.sent.flatten = s.acceptedRows := by
    intro hp
    unfold State.Ledger at hl
    simpa only [hp] using hl
  refine ⟨?_, fun e => h.ended_eq_take, fun id rows => h.acceptedOf_prefix, ?_, ?_, ?_⟩
  · have hnodup := h.ids.nodup_iff.mpr List.nodup_range
    exact (List.nodup_append.mp hnodup).2.1
  · intro hr he id hid
    -- who has not ended is about to go on or waits, but a closed writer at rest has neither
    have hclosed : s.isClosed = true := by rw [State.isClosed, he, Bool.or_true]
    have hnone : s.roster = [] := by rw [State.roster, hr.2, hslots.closed hclosed]; rfl
    have hids := h.ids
    rw [hnone, List.map_nil, List.nil_append] at hids
    rw [← h.spawned] at hid
    exact List.mem_map.mp (hids.mem_iff.mpr (List.mem_range.mpr hid))
  · intro hp e he rows hrows
    rw [State.sentOf_eq_acceptedOf (hsent hp), htold e he rows hrows]
  · intro hp origin ho e he rows hrows
    rw [hsent hp, h.filter_origin ho, htold e he rows hrows]

theorem Path.truthful {policy : Policy} {s t : State α} {events : List (Event α)}
    (hs : State.spawn? policy = some s) (h : Path s events t) :
    Truthful (events.filterMap Event.step?) t :=
  (h.accounted hs).truthful (h.ledger hs) ((Slots.of_spawn? hs).path h)

/-- Producers only ever join those that have ended. -/
theorem Path.ended_prefix {s t : State α} {events : List (Event α)} (h : Path s events t) :
    s.ended <+: t.ended := by
  induction h with
  | refl => exact List.prefix_refl _
  | snoc _ ht ih =>
    apply ih.trans
    cases ht with
    | loop h => exact h.keeps.ended ▸ List.prefix_refl _
    | produce _ h =>
      cases h with
      | done | refused => exact List.prefix_append _ _
      | accepted | waits => exact List.prefix_refl _
    | clock => exact List.prefix_refl _
    | @step step ha =>
      cases step with
      | advance => cases ha
      | _ => exact List.prefix_refl _

/-- What a producer was told is final: nothing more is accepted of it. -/
structure Final (s t : State α) : Prop where
  ended : s.ended <+: t.ended
  accepted : ∀ e ∈ s.ended, t.acceptedOf e.id = s.acceptedOf e.id

theorem Path.final {policy : Policy} {start s t : State α} {events more : List (Event α)}
    (hs : State.spawn? policy = some start) (h : Path start events s) (ht : Path s more t) :
    Final s t := by
  refine ⟨ht.ended_prefix, fun e he => ?_⟩
  have hlater := (h.trans ht).accounted hs
  rw [List.filterMap_append, programs, List.filterMap_append] at hlater
  exact (h.accounted hs).acceptedOf_eq hlater he (ht.ended_prefix.subset he)

/-- Every producer that has ended was told the truth, at every point of every run, and it stays the
truth. -/
theorem truthful_for_good {policy : Policy} {start : State α}
    (hs : State.spawn? policy = some start) :
    (∀ events s, Path start events s → Truthful (events.filterMap Event.step?) s ∧
      ∀ more t, Path s more t → Final s t) ∧
    ∀ steps states, start.run? steps = some states → ∀ (i : Nat) (s : State α),
      states[i]? = some s → s.IsAtRest ∧ Truthful (steps.take (i + 1)) s ∧
        ∀ (j : Nat) (t : State α), i ≤ j → states[j]? = some t → Final s t := by
  constructor
  · exact fun events s h => ⟨h.truthful hs, fun more t => h.final hs⟩
  · intro steps states hrun i s hi
    have hrest := State.isAtRest_of_spawn? hs
    obtain ⟨hr, events, hp, he⟩ := State.exists_path_of_run? hrest hrun hi
    have hprograms : programs (events.filterMap Event.step?) = programs (steps.take (i + 1)) := by
      rw [he, programs_filter]
    have haccounted := hp.accounted hs
    rw [hprograms] at haccounted
    refine ⟨hr, haccounted.truthful (hp.ledger hs) ((Slots.of_spawn? hs).path hp), ?_⟩
    intro j t hij hj
    obtain ⟨more, hmore⟩ := State.exists_path_between hrest hrun hi hij hj
    exact hp.final hs hmore

/-- Two producers in turn, of which a shutdown refuses the second after one of its two rows. -/
theorem truthful_to_the_refused : ∃ (start t : State Nat) (states : List (State Nat)),
    State.spawn? ⟨1, 2, 10⟩ = some start ∧
    start.run? [.slowAppends 5, .store [7, 8, 9], .store [17, 15], .advance 10, .shutdown,
      .advance 10] = some states ∧ states[5]? = some t ∧
    t.ended = [⟨0, 3, true⟩, ⟨1, 1, false⟩] ∧ t.store.sent = [[7, 8], [9, 17]] ∧
    Truthful [.slowAppends 5, .store [7, 8, 9], .store [17, 15], .advance 10, .shutdown,
      .advance 10] t ∧
    t.sentOf 1 = [17] ∧ t.store.sent.flatten.filter (· / 10 = 1) = [17] ∧ Final t t := by
  have heval : ((State.spawn? ⟨1, 2, 10⟩).bind fun start =>
      (start.run? [.slowAppends 5, .store [7, 8, 9], .store [17, 15], .advance 10, .shutdown,
        .advance 10]).bind fun states =>
          states[5]?.map fun t => (t.ended, t.store.sent, t.phase)) =
      some ([⟨0, 3, true⟩, ⟨1, 1, false⟩], [[7, 8], [9, 17]], .ended none) := by cbv
  obtain ⟨start, states, t, hs, hrun, hi, heval⟩ := State.exists_answer_of_spawn? heval
  simp only [Prod.mk.injEq] at heval
  obtain ⟨hended, hsent, hphase⟩ := heval
  obtain ⟨-, h⟩ := truthful_for_good hs
  obtain ⟨-, htruthful, hfinal⟩ := h _ _ hrun 5 t hi
  have hsecond : (⟨1, 1, false⟩ : Ended) ∈ t.ended := by simp [hended]
  have horigin : ∀ (id : Nat) (rows : List Nat), [[7, 8, 9], [17, 15]][id]? = some rows →
      ∀ row ∈ rows, row / 10 = id := by
    intro id rows hrows
    rcases id with _ | _ | id
    · cases hrows
      decide
    · cases hrows
      decide
    · cases hrows
  exact ⟨start, t, states, hs, hrun, hi, hended, hsent, htruthful,
    htruthful.written hphase _ hsecond [17, 15] rfl,
    htruthful.marked hphase (· / 10) horigin _ hsecond [17, 15] rfl, hfinal 5 t (Nat.le_refl _) hi⟩

end Pageviews.Writer
