import Pageviews.Proofs.Writer.Departure
import Pageviews.Proofs.Writer.Offer

/-! The writer does not look into its rows. Main statement: to change every row and then run is to
run and then change every row. -/
namespace Pageviews

variable {α β : Type} (f : α → β)

def Store.Memory.map (m : Memory α) : Memory β where
  stalled := m.stalled
  delay := m.delay
  failure := m.failure
  opened := m.opened
  sent := m.sent.map (List.map f)

namespace Writer

def Batch.map (b : Batch α) : Batch β := ⟨b.rows.map f, b.openedAt⟩

def Next.map : Next α → Next β
  | wait => .wait
  | append row => .append (f row)
  | stop => .stop

def Phase.map : Phase α → Phase β
  | idle batch => .idle (batch.map (Batch.map f))
  | appending row batch until_ => .appending (f row) (batch.map f) until_
  | sending batch trigger age next => .sending (batch.map f) trigger age (next.map f)
  | ended failure => .ended failure

def Producer.map (p : Producer α) : Producer β := ⟨p.id, p.rows.map f, p.stored, p.holdsSlot⟩

def Admission.map (a : Admission α) : Admission β := ⟨a.time, a.producer, f a.row⟩

def Step.map : Step α → Step β
  | store rows => .store (rows.map f)
  | advance time => .advance time
  | stall => .stall
  | resume => .resume
  | slowAppends time => .slowAppends time
  | failOn point => .failOn point
  | shutdown => .shutdown
  | drop => .drop
  | look => .look

namespace State

theorem length_map (batch : Batch α) : (batch.map f).rows.length = batch.rows.length :=
  List.length_map f

def map (s : State α) : State β where
  policy := s.policy
  now := s.now
  store := s.store.map f
  queue := s.queue.map f
  phase := s.phase.map f
  draining := s.draining
  signalled := s.signalled
  held := s.held
  ready := s.ready.map (Producer.map f)
  waiting := s.waiting.map (Producer.map f)
  spawned := s.spawned
  accepted := s.accepted.map (Admission.map f)
  ended := s.ended
  notices := s.notices
  batchesSent := s.batchesSent
  rowsSent := s.rowsSent

variable (s : State α)

theorem isClosed_map : (s.map f).isClosed = s.isClosed := by
  have hended : (s.map f).hasEnded = s.hasEnded := by
    unfold hasEnded map
    cases s.phase <;> rfl
  rw [isClosed, hended, isClosed]
  rfl

theorem isAbandoned_map : (s.map f).isAbandoned = s.isAbandoned := by
  simp [isAbandoned, map]

theorem hasFreeSlot_map : (s.map f).hasFreeSlot = s.hasFreeSlot := by
  have hkept : (s.ready.map (Producer.map f)).filter (·.holdsSlot) =
      (s.ready.filter (·.holdsSlot)).map (Producer.map f) := List.filter_map
  simp only [hasFreeSlot, map, hkept, List.length_map]

theorem isExpired_map (batch : Batch α) :
    (s.map f).isExpired (batch.map f) = s.isExpired batch := rfl

theorem due?_map : (s.map f).due? = s.due? := by
  unfold due? map
  cases s.phase with
  | idle batch => cases batch <;> rfl
  | appending | sending | ended => rfl

theorem map_stop (failure : Option Failure) :
    (s.stop failure).map f = (s.map f).stop failure := by
  simp [stop, wakeAll, map, Phase.map]

theorem map_startAppend (row : α) (batch : Batch α) :
    (s.startAppend row batch).map f = (s.map f).startAppend (f row) (batch.map f) := by
  unfold startAppend
  rw [apply_ite (map f), map_stop]
  rfl

theorem map_openFor (row : α) : (s.openFor row).map f = (s.map f).openFor (f row) := by
  unfold openFor
  rw [apply_ite (map f), map_stop, map_startAppend]
  rfl

theorem map_deliver (current : Option (Batch α)) (row : α) :
    (s.deliver current row).map f = (s.map f).deliver (current.map (Batch.map f)) (f row) := by
  cases current with
  | none => exact s.map_openFor f row
  | some batch =>
    unfold deliver
    rw [apply_ite (map f), map_startAppend]
    rfl

theorem map_appended (row : α) (batch : Batch α) :
    (s.appended row batch).map f = (s.map f).appended (f row) (batch.map f) := by
  have hbatch : ({ batch with rows := batch.rows ++ [row] } : Batch α).map f =
      { batch.map f with rows := (batch.map f).rows ++ [f row] } := by simp [Batch.map]
  have hlength : ((batch.map f).rows ++ [f row]).length = (batch.rows ++ [row]).length := by
    rw [List.length_append, List.length_append, length_map, List.length_singleton,
      List.length_singleton]
  simp only [appended, hlength, ← hbatch, isExpired_map, apply_ite (map f)]
  rfl

theorem map_kept (batch : Batch α) (trigger : Trigger) (age : Nat) :
    (s.kept batch trigger age).map f = (s.map f).kept (batch.map f) trigger age := by
  simp [kept, map, Batch.map, Store.Memory.map, Store.Memory.keep]

theorem map_send (batch : Batch α) (trigger : Trigger) (age : Nat) (next : Next α) :
    (s.send batch trigger age next).map f =
      (s.map f).send (batch.map f) trigger age (next.map f) := by
  unfold send
  rw [apply_ite (map f), map_stop, length_map]
  cases next with
  | wait =>
    dsimp only [Next.map]
    rw [← map_kept]
    rfl
  | append row =>
    rw [map_openFor, map_kept]
    rfl
  | stop =>
    rw [map_stop, map_kept]
    rfl

theorem map_grantSlot : s.grantSlot.map f = (s.map f).grantSlot := by
  have hwaiting : (s.map f).waiting = s.waiting.map (Producer.map f) := rfl
  unfold grantSlot
  rw [hwaiting]
  cases s.waiting with
  | nil => rfl
  | cons producer others => simp [map, Producer.map]

theorem map_beginDrain : s.beginDrain.map f = (s.map f).beginDrain := by
  simp [beginDrain, wakeAll, map]

/-- An idle loop turns to the same thing. -/
theorem map_idleMove (current : Option (Batch α)) :
    (s.idleMove current).map (map f) = (s.map f).idleMove (current.map (Batch.map f)) := by
  have hqueue : (s.map f).queue = s.queue.map f := rfl
  have hdraining : (s.map f).draining = s.draining := rfl
  have hsignalled : (s.map f).signalled = s.signalled := rfl
  have hexpired :
      (current.map (Batch.map f)).any (s.map f).isExpired = current.any s.isExpired := by
    cases current <;> rfl
  unfold idleMove
  rw [hqueue, hdraining, hsignalled, isAbandoned_map, hexpired, apply_ite (Option.map (map f)),
    apply_ite (Option.map (map f)), apply_ite (Option.map (map f)), Option.map_some, map_beginDrain]
  congr 1
  · cases s.queue with
    | nil =>
      cases current with
      | none => exact congrArg some (s.map_stop f none)
      | some batch => rfl
    | cons row queue => exact congrArg some (map_deliver f _ current row)
  · congr 2
    · cases current <;> rfl
    · cases s.queue with
      | nil => rfl
      | cons row queue =>
        refine congrArg some ?_
        rw [map_deliver, map_grantSlot]
        rfl

/-- The loop moves in the same way. -/
theorem map_move : s.move.map (map f) = (s.map f).move := by
  have hphase : (s.map f).phase = s.phase.map f := rfl
  unfold move
  rw [hphase]
  cases s.phase with
  | idle current => exact s.map_idleMove f current
  | appending row batch until_ =>
    dsimp only [Phase.map]
    rw [apply_ite (Option.map (map f)), Option.map_some, map_appended]
    rfl
  | sending batch trigger age next =>
    dsimp only [Phase.map]
    rw [apply_ite (Option.map (map f)), Option.map_some, map_send]
    rfl
  | ended failure => rfl

theorem map_retire (producer : Producer α) (others : List (Producer α)) (complete : Bool) :
    (s.retire producer others complete).map f =
      (s.map f).retire (producer.map f) (others.map (Producer.map f)) complete := rfl

theorem map_accept (producer : Producer α) (row : α) (rows : List α)
    (others : List (Producer α)) :
    (s.accept producer row rows others).map f =
      (s.map f).accept (producer.map f) (f row) (rows.map f) (others.map (Producer.map f)) := by
  simp [accept, map, Producer.map, Admission.map]

theorem map_produce (producer : Producer α) (others : List (Producer α)) :
    (s.produce producer others).map f =
      (s.map f).produce (producer.map f) (others.map (Producer.map f)) := by
  have hrows : (producer.map f).rows = producer.rows.map f := rfl
  have hslot : (producer.map f).holdsSlot = producer.holdsSlot := rfl
  unfold produce
  rw [hrows, hslot, isClosed_map, hasFreeSlot_map]
  cases producer.rows with
  | nil => rfl
  | cons row rows =>
    dsimp only [List.map_cons]
    rw [apply_ite (map f), apply_ite (map f), map_retire, map_accept]
    simp [map]

theorem map_runLoop : s.runLoop.map f = (s.map f).runLoop := by
  fun_induction runLoop s with
  | case1 s h =>
    have hmove : (s.map f).move = none := by rw [← map_move, h, Option.map_none]
    rw [runLoop_of_move hmove]
  | case2 s next h ih =>
    have hmove : (s.map f).move = some (next.map f) := by rw [← map_move, h, Option.map_some]
    rw [ih, runLoop_of_move_eq_some hmove]

theorem map_runProducers : s.runProducers.map f = (s.map f).runProducers := by
  fun_induction runProducers s with
  | case1 s h =>
    have hready : (s.map f).ready = [] := by rw [map, h, List.map_nil]
    rw [runProducers_of_ready_nil hready]
  | case2 s producer others h ih =>
    have hready : (s.map f).ready = producer.map f :: others.map (Producer.map f) := by
      rw [map, h, List.map_cons]
    rw [ih, map_produce, runProducers_of_ready hready]

theorem map_settle : s.settle.map f = (s.map f).settle := by
  have hready (s : State α) : (s.map f).ready = [] ↔ s.ready = [] := List.map_eq_nil_iff
  fun_induction settle s with
  | case1 s h =>
    rw [settle, ← map_runLoop, dif_pos ((hready s.runLoop).mpr h)]
  | case2 s h ih =>
    rw [ih, settle.eq_def (s.map f), ← map_runLoop, dif_neg (mt (hready s.runLoop).mp h),
      ← map_runProducers]

/-- The same things fall due on the way. -/
theorem map_advanceTo (target : Nat) :
    (s.advanceTo target).map f = (s.map f).advanceTo target := by
  have hnow (s : State α) : (s.map f).now = s.now := rfl
  fun_induction advanceTo s target with
  | case1 s hd =>
    rw [advanceTo.eq_def (s.map f), due?_map, hd]
    rfl
  | case2 s due hd hle ih =>
    rw [ih, map_settle, advanceTo.eq_def (s.map f), due?_map, hd]
    dsimp only
    rw [hnow, dif_pos hle]
    rfl
  | case3 s due hd hle =>
    rw [advanceTo.eq_def (s.map f), due?_map, hd]
    dsimp only
    rw [hnow, dif_neg hle]
    rfl

theorem map_perform (step : Step α) :
    (s.perform step).map f = (s.map f).perform (step.map f) := by
  cases step with
  | store rows => simp [perform, spawnProducer, map, Producer.map, Step.map]
  | advance time => exact map_advanceTo f s _
  | stall | resume | slowAppends | failOn | shutdown | drop | look => rfl

theorem map_take (step : Step α) : (s.take step).map f = (s.map f).take (step.map f) := by
  rw [take, map_settle, map_perform, take]

theorem map_step? (step : Step α) :
    (s.step? step).map (map f) = (s.map f).step? (step.map f) := by
  have hneeds : (step.map f).needsWriter = step.needsWriter := by cases step <;> rfl
  have hheld : (s.map f).held = s.held := rfl
  rw [step?, step?, hneeds, hheld, apply_ite (Option.map (map f)), Option.map_some, map_take]
  rfl

/-- To change every row and then run is to run and then change every row. -/
theorem map_run? (steps : List (Step α)) :
    (s.run? steps).map (List.map (map f)) = (s.map f).run? (steps.map (Step.map f)) := by
  induction steps generalizing s with
  | nil => rfl
  | cons step steps ih =>
    rw [List.map_cons, run?, run?, ← map_step?]
    cases s.step? step with
    | none => rfl
    | some t =>
      dsimp only [Option.map_some, Option.bind_eq_bind, Option.bind_some]
      rw [← ih]
      cases t.run? steps <;> rfl

/-- How an offer ends does not depend on the row. -/
theorem offer_map (row : α) :
    (s.map f).offer (f row) = ((s.offer row).1.map f, (s.offer row).2) := by
  have htake : (s.map f).take (.store [f row]) = (s.take (.store [row])).map f :=
    (s.map_take f (.store [row])).symm
  rw [offer, htake]
  rfl

end State
end Writer
end Pageviews
