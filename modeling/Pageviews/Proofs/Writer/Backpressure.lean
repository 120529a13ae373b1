import Pageviews.Proofs.Writer.FailStop
import Pageviews.Proofs.Writer.Schedule

/-! What holds producers back, and how much the writer can lose. Main statement: at rest a producer
waits only for a full queue, the queue is empty unless the store holds the loop up, and the rows
that are accepted but not sent fit into the queue and one batch. -/
namespace Pageviews.Writer

variable {α : Type}

namespace State

/-- The loop holds no more than a batch, and a batch that waits for rows has room for one. -/
structure Roomy (s : State α) : Prop where
  held : s.phase.held.length ≤ s.policy.fullSize
  idle : ∀ current, s.phase = .idle current → (currentRows current).length < s.policy.fullSize

/-- A state of the loop in which it does not wait for rows. -/
theorem Roomy.busy {s : State α} (hheld : s.phase.held.length ≤ s.policy.fullSize)
    (hbusy : ∀ current, s.phase ≠ .idle current) : s.Roomy :=
  ⟨hheld, fun current hp => absurd hp (hbusy current)⟩

theorem roomy_stop (s : State α) (failure : Option Failure) : (s.stop failure).Roomy :=
  .busy (Nat.zero_le _) (fun _ => nofun)

end State

theorem Delivery.roomy {s t : State α} {row : α} {current : Option (Batch α)}
    {taken : List (Call α)} {refused : Option (Call α)}
    (h : Delivery s row current taken refused t)
    (hs : (currentRows current).length < s.policy.fullSize) : t.Roomy := by
  -- wherever the row goes, the loop now holds it with what it held before
  have hheld : (currentRows current ++ [row]).length ≤ s.policy.fullSize := by
    rw [List.length_append, List.length_singleton]
    exact hs
  cases h with
  | notOpened | notFirst | notNext => exact State.roomy_stop _ _
  | first | tooOld | next => exact .busy hheld (fun _ => nofun)

theorem LoopMove.roomy {s t : State α} {taken : List (Call α)} {refused : Option (Call α)}
    (h : LoopMove s taken refused t) (hs : s.Roomy) : t.Roomy := by
  have hheld := hs.held
  cases h with
  | beginDrain => exact ⟨hheld, hs.idle⟩
  | expire hp | flush hp =>
    rw [hp] at hheld
    exact .busy hheld (fun _ => nofun)
  | @take current row queue _ _ _ hp _ _ _ _ _ h =>
    apply h.roomy
    rw [(s.keeps_take queue).policy]
    exact hs.idle current hp
  | takeLate hp _ _ h => exact h.roomy (hs.idle _ hp)
  | finish | notSent | sentLast => exact State.roomy_stop _ _
  | fill hp | outlive hp =>
    rw [hp] at hheld
    exact .busy hheld (fun _ => nofun)
  | @join row batch _ _ _ hf =>
    have hsize : s.policy.batchSize ≤ s.policy.fullSize := Nat.le_max_right _ _
    have hlen : (batch.rows ++ [row]).length < s.policy.fullSize := by
      rw [List.length_append, List.length_singleton]
      omega
    constructor
    · exact Nat.le_of_lt hlen
    · rintro current hp
      cases hp
      exact hlen
  | sent =>
    have hpos : 0 < s.policy.fullSize := s.policy.one_le_fullSize
    constructor
    · exact Nat.zero_le _
    · rintro current hp
      cases hp
      exact hpos
  | sentBefore _ _ _ h => exact h.roomy s.policy.one_le_fullSize

theorem Transition.roomy {s t : State α} {event : Event α} (h : Transition s event t)
    (hs : s.Roomy) : t.Roomy := by
  cases h with
  | loop h => exact h.roomy hs
  | produce _ h => cases h <;> exact ⟨hs.held, hs.idle⟩
  | clock => exact ⟨hs.held, hs.idle⟩
  | @step step ha =>
    cases step with
    | advance => cases ha
    | _ => exact ⟨hs.held, hs.idle⟩

theorem Path.roomy {policy : Policy} {s t : State α} {events : List (Event α)}
    (hs : State.spawn? policy = some s) (h : Path s events t) : t.Roomy := by
  apply h.invariant (fun ht => ht.roomy)
  obtain rfl := State.eq_fresh hs
  constructor
  · exact Nat.zero_le _
  · rintro current hp
    cases hp
    exact policy.one_le_fullSize

namespace State

def Outstanding (s : State α) : Prop :=
  s.acceptedRows.length ≤ s.store.sent.flatten.length + (s.policy.slots + s.policy.fullSize)

theorem outstanding_of_running {s : State α} (hl : s.Ledger) (hslots : Slots s) (hr : s.Roomy)
    (he : s.hasEnded = false) : s.Outstanding := by
  have hbalance := congrArg List.length (hl.balanced he)
  have hqueue : s.queue.length ≤ s.policy.slots := Nat.le_of_add_right_le hslots.bound
  have hheld := hr.held
  unfold Outstanding
  simp only [List.length_append] at hbalance
  omega

theorem Ledger.isPrefix {s : State α} (h : s.Ledger) : s.store.sent.flatten <+: s.acceptedRows := by
  cases hp : s.phase with
  | ended failure =>
    unfold Ledger at h
    rw [hp] at h
    cases failure with
    | none => exact h ▸ List.prefix_refl _
    | some failure => exact h
  | _ => exact Balanced.prefix (h.balanced (by simp [hasEnded, hp]))

end State

theorem LoopMove.outstanding {s t : State α} {taken : List (Call α)} {refused : Option (Call α)}
    (h : LoopMove s taken refused t) (hs : s.Outstanding) : t.Outstanding := by
  have hk := h.keeps
  have hsent : s.store.sent.flatten.length ≤ t.store.sent.flatten.length := by
    rw [h.store.1, List.flatten_append, List.length_append]
    exact Nat.le_add_right _ _
  unfold State.Outstanding State.acceptedRows at *
  rw [hk.accepted, hk.policy]
  omega

theorem Path.outstanding {policy : Policy} {s t : State α} {events : List (Event α)}
    (hs : State.spawn? policy = some s) (h : Path s events t) : t.Outstanding := by
  induction h with
  | refl =>
    obtain rfl := State.eq_fresh hs
    exact Nat.zero_le _
  | @snoc u t events event h ht ih =>
    have hpath := h.snoc ht
    cases ht with
    | loop hm => exact hm.outstanding ih
    | produce _ hp =>
      cases hp with
      | done | refused | waits => exact ih
      | accepted _ hc =>
        -- only a writer that runs accepts a row, and then the row has a slot of the queue
        have he : u.hasEnded = false := (Bool.or_eq_false_iff.mp hc).2
        have hslots := (Slots.of_spawn? hs).path hpath
        exact State.outstanding_of_running (hpath.ledger hs) hslots (hpath.roomy hs) he
    | clock => exact ih
    | @step step ha =>
      cases step with
      | advance => cases ha
      | _ => exact ih

namespace State

/-- The store holds the loop up: it takes its time for a row, or does not take a batch. -/
def IsHeldUp (s : State α) : Prop :=
  match s.phase with
  | .appending _ _ until_ => s.now < until_
  | .sending .. => s.store.stalled = true
  | _ => False

/-- A loop that waits for rows has taken all there are. -/
theorem queue_eq_nil {s : State α} (hm : s.move = none) (he : s.hasEnded = false)
    (hh : ¬ s.IsHeldUp) : s.queue = [] := by
  rw [move_eq_none_iff] at hm
  unfold IsHeldUp at hh
  cases hp : s.phase with
  | idle current =>
    by_contra hq
    exact hm (canMove_of_queue_ne_nil hp hq)
  | appending row batch until_ =>
    rw [hp] at hh
    exact absurd (canMove_of_appending hp (Nat.le_of_not_lt hh)) hm
  | sending =>
    rw [hp] at hh
    exact absurd (canMove_of_sending hp (by simpa using hh)) hm
  | ended => simp [hasEnded, hp] at he

end State

/-- The rows that were accepted and are not in the store fit into the queue and one batch. -/
def BoundedLoss (policy : Policy) (s : State α) : Prop :=
  ∃ unsent, s.acceptedRows = s.store.sent.flatten ++ unsent ∧
    unsent.length ≤ policy.slots + policy.fullSize

theorem Path.boundedLoss {policy : Policy} {s t : State α} {events : List (Event α)}
    (hs : State.spawn? policy = some s) (h : Path s events t) : BoundedLoss policy t := by
  obtain ⟨unsent, hrows⟩ := (h.ledger hs).isPrefix
  have hpolicy := h.policy_eq hs
  have hbound := h.outstanding hs
  rw [State.Outstanding, ← hrows, List.length_append, hpolicy] at hbound
  exact ⟨unsent, hrows.symm, Nat.le_of_add_le_add_left hbound⟩

/-- What holds of a writer with a policy when nothing more can happen at the current time. -/
structure Backpressure (policy : Policy) (s : State α) : Prop where
  queue : s.queue.length ≤ policy.slots
  waiting : s.waiting ≠ [] → s.hasEnded = false ∧ s.queue.length = policy.slots
  /-- Nothing is left undone for want of anything but the store. -/
  working : s.hasEnded = false → ¬ s.IsHeldUp → s.queue = [] ∧ s.waiting = []
  unsent : BoundedLoss policy s

theorem Path.backpressure {policy : Policy} {s t : State α} {events : List (Event α)}
    (hs : State.spawn? policy = some s) (h : Path s events t) (hr : t.IsAtRest) :
    Backpressure policy t := by
  have hslots := (Slots.of_spawn? hs).path h
  have hpolicy := h.policy_eq hs
  have hreserved : t.reserved = 0 := by rw [State.reserved, hr.2]; rfl
  constructor
  · rw [← hpolicy]
    exact Nat.le_of_add_right_le hslots.bound
  · intro hw
    have hopen : t.isClosed = false := by
      by_contra hc
      exact hw (hslots.closed (by simpa using hc))
    constructor
    · exact (Bool.or_eq_false_iff.mp hopen).2
    · have hfull := hslots.full hw
      rw [hreserved, hpolicy] at hfull
      exact hfull
  · intro he hh
    have hq := State.queue_eq_nil hr.1 he hh
    exact ⟨hq, hslots.waiting_eq_nil hq hr.2⟩
  · exact h.boundedLoss hs

/-- At rest producers wait only for a full queue, and only while the store holds the loop up. At no
time are more rows accepted but not sent than fit into the queue and one batch, so a writer that
fails loses no more. -/
theorem waits_only_for_store {policy : Policy} {start : State α}
    (hs : State.spawn? policy = some start) :
    (∀ events s, Path start events s → BoundedLoss policy s ∧
      (s.IsAtRest → Backpressure policy s)) ∧
    ∀ (steps : List (Step α)) (states : List (State α)) (i : Nat) (s : State α),
      start.run? steps = some states → states[i]? = some s →
      s.IsAtRest ∧ Backpressure policy s := by
  constructor
  · intro events s h
    exact ⟨h.boundedLoss hs, h.backpressure hs⟩
  · intro steps states i s hrun hi
    obtain ⟨hr, events, h, -⟩ := State.exists_path_of_run? (State.isAtRest_of_spawn? hs) hrun hi
    exact ⟨hr, h.backpressure hs hr⟩

/-- A stalled send with a full queue behind it: a producer waits, and as many rows are not sent as
ever can be. All of them are lost when the send fails. -/
theorem waits_only_for_store_stalled : ∃ (start s t : State Nat) (states : List (State Nat)),
    State.spawn? ⟨1, 2, 10⟩ = some start ∧
    start.run? [.stall, .store [7, 8, 9, 7], .failOn .sending, .resume] = some states ∧
    states[1]? = some s ∧ states[3]? = some t ∧
    (s.queue, s.waiting.map Producer.rows, s.acceptedRows) = ([9], [[7]], [7, 8, 9]) ∧
    (t.phase, t.acceptedRows, t.store.sent) = (.ended (some (.sending 2)), [7, 8, 9], []) ∧
    Backpressure ⟨1, 2, 10⟩ s ∧ Backpressure ⟨1, 2, 10⟩ t := by
  have heval : ((State.spawn? ⟨1, 2, 10⟩).bind fun start =>
      (start.run? [.stall, .store [7, 8, 9, 7], .failOn .sending, .resume]).bind fun states =>
        states[1]?.map fun s => ((s.queue, s.waiting.map Producer.rows, s.acceptedRows),
          states[3]?.map fun t => (t.phase, t.acceptedRows, t.store.sent))) =
      some (([9], [[7]], [7, 8, 9]), some (.ended (some (.sending 2)), [7, 8, 9], [])) := by cbv
  obtain ⟨start, states, s, hs, hrun, hi, heval⟩ := State.exists_answer_of_spawn? heval
  obtain ⟨hstalled, hlater⟩ := Prod.mk.inj heval
  obtain ⟨t, hj, hfailed⟩ := Option.map_eq_some_iff.mp hlater
  obtain ⟨-, h⟩ := waits_only_for_store hs
  obtain ⟨-, hbs⟩ := h _ _ 1 s hrun hi
  obtain ⟨-, hbt⟩ := h _ _ 3 t hrun hj
  exact ⟨start, s, t, states, hs, hrun, hi, hj, hstalled, hfailed, hbs, hbt⟩

end Pageviews.Writer
