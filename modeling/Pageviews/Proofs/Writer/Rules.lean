import Mathlib.Tactic.Common
import Pageviews.Writer.Step

/-! The moves of the loop as rules, each with what it asks of the store, and those of a producer.
Main statement: the rules are exactly the moves. -/
namespace Pageviews.Writer

open Store (FailurePoint Memory)

/-- What the loop asks of the store. -/
inductive Call (α : Type) where
  | openBatch
  /-- Append a row to a batch that holds some rows. -/
  | append (rows : List α) (row : α)
  | send (rows : List α)

namespace Call

variable {α : Type}

def point : Call α → FailurePoint
  | openBatch => .opening
  | append .. => .appending
  | send _ => .sending

/-- The rows of the batch that is lost when the call is refused. -/
def batchRows : Call α → List α
  | openBatch => []
  | append rows _ => rows
  | send rows => rows

def failure : Call α → Failure
  | openBatch => .opening
  | append .. => .appending
  | send rows => .sending rows.length

@[simp] theorem point_failure (call : Call α) : call.failure.point = call.point := by
  cases call <;> rfl

def sent? : Call α → Option (List α)
  | send rows => some rows
  | _ => none

def isOpen : Call α → Bool
  | openBatch => true
  | _ => false

end Call

def currentRows {α : Type} (current : Option (Batch α)) : List α := current.elim [] Batch.rows

variable {α : Type}

/-- What becomes of a row for the current batch: the calls that the store takes, the call it
refuses, and the state after them. -/
inductive Delivery (s : State α) (row : α) :
    Option (Batch α) → List (Call α) → Option (Call α) → State α → Prop where
  | notOpened (ho : s.store.fails .opening = true) :
      Delivery s row none [] (some .openBatch) (s.stop (some .opening))
  | notFirst (ho : s.store.fails .opening = false) (ha : s.store.fails .appending = true) :
      Delivery s row none [.openBatch] (some (.append [] row))
        (State.stop { s with store := s.store.countOpened } (some .appending))
  | first (ho : s.store.fails .opening = false) (ha : s.store.fails .appending = false) :
      Delivery s row none [.openBatch, .append [] row] none
        { s with
          store := s.store.countOpened
          phase := .appending row ⟨[], s.now⟩ (s.now + s.store.delay) }
  | tooOld {batch : Batch α} (hx : s.isExpired batch = true) :
      Delivery s row (some batch) [] none (s.startSend batch .age (.append row))
  | notNext {batch : Batch α} (hx : s.isExpired batch = false)
      (ha : s.store.fails .appending = true) :
      Delivery s row (some batch) [] (some (.append batch.rows row)) (s.stop (some .appending))
  | next {batch : Batch α} (hx : s.isExpired batch = false)
      (ha : s.store.fails .appending = false) :
      Delivery s row (some batch) [.append batch.rows row] none
        { s with phase := .appending row batch (s.now + s.store.delay) }

/-- A move of the loop: the calls that the store takes, the call it refuses, and the state after
the move. -/
inductive LoopMove (s : State α) : List (Call α) → Option (Call α) → State α → Prop where
  | beginDrain {current : Option (Batch α)} (hp : s.phase = .idle current)
      (hd : s.draining = false) (hs : s.signalled = true ∨ s.isAbandoned = true) :
      LoopMove s [] none s.beginDrain
  | expire {batch : Batch α} (hp : s.phase = .idle (some batch)) (hd : s.draining = false)
      (hs : s.signalled = false) (ha : s.isAbandoned = false) (hx : s.isExpired batch = true) :
      LoopMove s [] none (s.startSend batch .age .wait)
  | take {current : Option (Batch α)} {row : α} {queue : List α} {taken : List (Call α)}
      {refused : Option (Call α)} {t : State α} (hp : s.phase = .idle current)
      (hd : s.draining = false) (hs : s.signalled = false) (ha : s.isAbandoned = false)
      (hx : ∀ batch, current = some batch → s.isExpired batch = false)
      (hq : s.queue = row :: queue)
      (h : Delivery ({ s with queue } : State α).grantSlot row current taken refused t) :
      LoopMove s taken refused t
  | takeLate {current : Option (Batch α)} {row : α} {queue : List α} {taken : List (Call α)}
      {refused : Option (Call α)} {t : State α} (hp : s.phase = .idle current)
      (hd : s.draining = true) (hq : s.queue = row :: queue)
      (h : Delivery { s with queue } row current taken refused t) :
      LoopMove s taken refused t
  | flush {batch : Batch α} (hp : s.phase = .idle (some batch)) (hd : s.draining = true)
      (hq : s.queue = []) :
      LoopMove s [] none (s.startSend batch .shutdown .stop)
  | finish (hp : s.phase = .idle none) (hd : s.draining = true) (hq : s.queue = []) :
      LoopMove s [] none (s.stop none)
  | fill {row : α} {batch : Batch α} {until_ : Nat} (hp : s.phase = .appending row batch until_)
      (hn : until_ ≤ s.now) (hf : s.policy.batchSize ≤ batch.rows.length + 1) :
      LoopMove s [] none (s.startSend { batch with rows := batch.rows ++ [row] } .size .wait)
  | outlive {row : α} {batch : Batch α} {until_ : Nat} (hp : s.phase = .appending row batch until_)
      (hn : until_ ≤ s.now) (hf : batch.rows.length + 1 < s.policy.batchSize)
      (hx : s.isExpired batch = true) :
      LoopMove s [] none (s.startSend { batch with rows := batch.rows ++ [row] } .age .wait)
  | join {row : α} {batch : Batch α} {until_ : Nat} (hp : s.phase = .appending row batch until_)
      (hn : until_ ≤ s.now) (hf : batch.rows.length + 1 < s.policy.batchSize)
      (hx : s.isExpired batch = false) :
      LoopMove s [] none
        { s with phase := .idle (some { batch with rows := batch.rows ++ [row] }) }
  | notSent {batch : Batch α} {trigger : Trigger} {age : Nat} {next : Next α}
      (hp : s.phase = .sending batch trigger age next) (hw : s.store.stalled = false)
      (hf : s.store.fails .sending = true) :
      LoopMove s [] (some (.send batch.rows)) (s.stop (some (.sending batch.rows.length)))
  | sent {batch : Batch α} {trigger : Trigger} {age : Nat}
      (hp : s.phase = .sending batch trigger age .wait) (hw : s.store.stalled = false)
      (hf : s.store.fails .sending = false) :
      LoopMove s [.send batch.rows] none { s.kept batch trigger age with phase := .idle none }
  | sentBefore {batch : Batch α} {trigger : Trigger} {age : Nat} {row : α}
      {taken : List (Call α)} {refused : Option (Call α)} {t : State α}
      (hp : s.phase = .sending batch trigger age (.append row)) (hw : s.store.stalled = false)
      (hf : s.store.fails .sending = false)
      (h : Delivery (s.kept batch trigger age) row none taken refused t) :
      LoopMove s (.send batch.rows :: taken) refused t
  | sentLast {batch : Batch α} {trigger : Trigger} {age : Nat}
      (hp : s.phase = .sending batch trigger age .stop) (hw : s.store.stalled = false)
      (hf : s.store.fails .sending = false) :
      LoopMove s [.send batch.rows] none ((s.kept batch trigger age).stop none)

/-- A move of the first producer that can go on. -/
inductive Production (s : State α) (producer : Producer α) (others : List (Producer α)) :
    State α → Prop where
  | done (hr : producer.rows = []) : Production s producer others (s.retire producer others true)
  | refused {row : α} {rows : List α} (hr : producer.rows = row :: rows)
      (hc : s.isClosed = true) : Production s producer others (s.retire producer others false)
  | accepted {row : α} {rows : List α} (hr : producer.rows = row :: rows)
      (hc : s.isClosed = false) (hf : producer.holdsSlot = true ∨ s.hasFreeSlot = true) :
      Production s producer others (s.accept producer row rows others)
  | waits {row : α} {rows : List α} (hr : producer.rows = row :: rows)
      (hc : s.isClosed = false) (hh : producer.holdsSlot = false) (hf : s.hasFreeSlot = false) :
      Production s producer others
        { s with ready := others, waiting := s.waiting ++ [producer] }

namespace State

theorem production (s : State α) (producer : Producer α) (others : List (Producer α)) :
    Production s producer others (s.produce producer others) := by
  unfold produce
  split
  · next hr => exact .done hr
  · next row rows hr =>
    split
    · next hc => exact .refused hr hc
    · next hc =>
      rw [Bool.not_eq_true] at hc
      split
      · next hf => exact .accepted hr hc (by simpa using hf)
      · next hf =>
        simp only [Bool.or_eq_true, not_or, Bool.not_eq_true] at hf
        exact .waits hr hc hf.1 hf.2

theorem eq_deliver_of_delivery {s t : State α} {row : α} {current : Option (Batch α)}
    {taken : List (Call α)} {refused : Option (Call α)}
    (h : Delivery s row current taken refused t) : t = s.deliver current row := by
  cases h with
  | notOpened ho => simp [deliver, openFor, ho]
  | notFirst ho ha =>
    have hc : s.store.countOpened.fails .appending = true := ha
    simp [deliver, openFor, startAppend, ho, hc]
  | first ho ha =>
    have hc : s.store.countOpened.fails .appending = false := ha
    have hl : s.store.countOpened.delay = s.store.delay := rfl
    simp [deliver, openFor, startAppend, ho, hc, hl]
  | tooOld hx => simp [deliver, hx]
  | notNext hx ha => simp [deliver, startAppend, hx, ha]
  | next hx ha => simp [deliver, startAppend, hx, ha]

/-- Every row is delivered by one of the rules. -/
theorem exists_delivery (s : State α) (row : α) (current : Option (Batch α)) :
    ∃ taken refused, Delivery s row current taken refused (s.deliver current row) := by
  suffices h : ∃ taken refused t, Delivery s row current taken refused t by
    obtain ⟨taken, refused, t, h⟩ := h
    exact ⟨taken, refused, eq_deliver_of_delivery h ▸ h⟩
  cases ha : s.store.fails .appending with
  | true =>
    cases current with
    | none =>
      cases ho : s.store.fails .opening with
      | true => exact ⟨_, _, _, .notOpened ho⟩
      | false => exact ⟨_, _, _, .notFirst ho ha⟩
    | some batch =>
      cases hx : s.isExpired batch with
      | true => exact ⟨_, _, _, .tooOld hx⟩
      | false => exact ⟨_, _, _, .notNext hx ha⟩
  | false =>
    cases current with
    | none =>
      cases ho : s.store.fails .opening with
      | true => exact ⟨_, _, _, .notOpened ho⟩
      | false => exact ⟨_, _, _, .first ho ha⟩
    | some batch =>
      cases hx : s.isExpired batch with
      | true => exact ⟨_, _, _, .tooOld hx⟩
      | false => exact ⟨_, _, _, .next hx ha⟩

theorem move_of_loopMove {s t : State α} {taken : List (Call α)} {refused : Option (Call α)}
    (h : LoopMove s taken refused t) : s.move = some t := by
  cases h with
  | beginDrain hp hd hs =>
    have hs' : (s.signalled || s.isAbandoned) = true := by simpa using hs
    simp [move, hp, idleMove, hd, hs']
  | expire hp hd hs ha hx => simp [move, hp, idleMove, hd, hs, ha, hx]
  | @take current row queue _ _ _ hp hd hs ha hx hq hdel =>
    have hx' : current.any s.isExpired = false := by
      cases current with
      | none => rfl
      | some batch => simpa using hx batch rfl
    rw [eq_deliver_of_delivery hdel]
    simp [move, hp, idleMove, hd, hs, ha, hx', hq]
  | takeLate hp hd hq hdel =>
    rw [eq_deliver_of_delivery hdel]
    simp [move, hp, idleMove, hd, hq]
  | flush hp hd hq => simp [move, hp, idleMove, hd, hq]
  | finish hp hd hq => simp [move, hp, idleMove, hd, hq]
  | fill hp hn hf => simp [move, hp, hn, appended, hf]
  | @outlive row batch _ hp hn hf hx =>
    have hx' : s.isExpired { batch with rows := batch.rows ++ [row] } = true := hx
    simp [move, hp, hn, appended, Nat.not_le.mpr hf, hx']
  | @join row batch _ hp hn hf hx =>
    have hx' : s.isExpired { batch with rows := batch.rows ++ [row] } = false := hx
    simp [move, hp, hn, appended, Nat.not_le.mpr hf, hx']
  | notSent hp hw hf => simp [move, hp, hw, send, hf]
  | sent hp hw hf => simp [move, hp, hw, send, hf]
  | sentBefore hp hw hf hdel =>
    rw [eq_deliver_of_delivery hdel]
    simp [move, hp, hw, send, hf, deliver]
  | sentLast hp hw hf => simp [move, hp, hw, send, hf]

def CanMove (s : State α) : Prop := ∃ taken refused t, LoopMove s taken refused t

theorem canMove_of_draining {s : State α} {current : Option (Batch α)}
    (hp : s.phase = .idle current) (hd : s.draining = true) : s.CanMove := by
  cases hq : s.queue with
  | nil =>
    cases current with
    | none => exact ⟨_, _, _, .finish hp hd hq⟩
    | some batch => exact ⟨_, _, _, .flush hp hd hq⟩
  | cons row queue =>
    obtain ⟨_, _, h⟩ := exists_delivery { s with queue } row current
    exact ⟨_, _, _, .takeLate hp hd hq h⟩

theorem canMove_of_signalled {s : State α} {current : Option (Batch α)}
    (hp : s.phase = .idle current) (hs : s.signalled = true ∨ s.isAbandoned = true) :
    s.CanMove := by
  cases hd : s.draining with
  | true => exact canMove_of_draining hp hd
  | false => exact ⟨_, _, _, .beginDrain hp hd hs⟩

theorem canMove_of_expired {s : State α} {batch : Batch α}
    (hp : s.phase = .idle (some batch)) (hx : s.isExpired batch = true) : s.CanMove := by
  by_cases h : s.signalled = true ∨ s.isAbandoned = true
  · exact canMove_of_signalled hp h
  · simp only [not_or, Bool.not_eq_true] at h
    cases hd : s.draining with
    | true => exact canMove_of_draining hp hd
    | false => exact ⟨_, _, _, .expire hp hd h.1 h.2 hx⟩

theorem canMove_of_queue_ne_nil {s : State α} {current : Option (Batch α)}
    (hp : s.phase = .idle current) (hq : s.queue ≠ []) : s.CanMove := by
  by_cases h : s.signalled = true ∨ s.isAbandoned = true
  · exact canMove_of_signalled hp h
  by_cases hx : ∃ batch, current = some batch ∧ s.isExpired batch = true
  · obtain ⟨batch, rfl, hx⟩ := hx
    exact canMove_of_expired hp hx
  simp only [not_or, Bool.not_eq_true] at h
  cases hd : s.draining with
  | true => exact canMove_of_draining hp hd
  | false =>
    obtain ⟨row, queue, hq⟩ := List.exists_cons_of_ne_nil hq
    obtain ⟨_, _, hdel⟩ := exists_delivery ({ s with queue } : State α).grantSlot row current
    refine ⟨_, _, _, .take hp hd h.1 h.2 (fun batch hb => ?_) hq hdel⟩
    cases he : s.isExpired batch with
    | true => exact absurd ⟨batch, hb, he⟩ hx
    | false => rfl

theorem canMove_of_appending {s : State α} {row : α} {batch : Batch α} {until_ : Nat}
    (hp : s.phase = .appending row batch until_) (hn : until_ ≤ s.now) : s.CanMove := by
  by_cases hf : s.policy.batchSize ≤ batch.rows.length + 1
  · exact ⟨_, _, _, .fill hp hn hf⟩
  · cases hx : s.isExpired batch with
    | true => exact ⟨_, _, _, .outlive hp hn (by omega) hx⟩
    | false => exact ⟨_, _, _, .join hp hn (by omega) hx⟩

theorem canMove_of_sending {s : State α} {batch : Batch α} {trigger : Trigger} {age : Nat}
    {next : Next α} (hp : s.phase = .sending batch trigger age next)
    (hw : s.store.stalled = false) : s.CanMove := by
  cases hf : s.store.fails .sending with
  | true => exact ⟨_, _, _, .notSent hp hw hf⟩
  | false =>
    cases next with
    | wait => exact ⟨_, _, _, .sent hp hw hf⟩
    | append row =>
      obtain ⟨_, _, h⟩ := exists_delivery (s.kept batch trigger age) row none
      exact ⟨_, _, _, .sentBefore hp hw hf h⟩
    | stop => exact ⟨_, _, _, .sentLast hp hw hf⟩

/-- Where no rule applies, the loop waits for a row or the age of its batch, for an append, or for
a stalled store, or it has ended. -/
theorem move_eq_none_of_not_canMove {s : State α} (h : ¬ s.CanMove) : s.move = none := by
  cases hp : s.phase with
  | idle current =>
    have hs : (s.signalled || s.isAbandoned) = false := by
      by_contra hs
      rw [Bool.not_eq_false, Bool.or_eq_true] at hs
      exact h (canMove_of_signalled hp hs)
    have hd : s.draining = false := by
      by_contra hd
      exact h (canMove_of_draining hp (by simpa using hd))
    have hq : s.queue = [] := by
      by_contra hq
      exact h (canMove_of_queue_ne_nil hp hq)
    have hx : current.any s.isExpired = false := by
      cases current with
      | none => rfl
      | some batch =>
        by_contra hx
        exact h (canMove_of_expired hp (by simpa using hx))
    simp [move, hp, idleMove, hs, hd, hq, hx]
  | appending row batch until_ =>
    have hn : ¬ until_ ≤ s.now := fun hn => h (canMove_of_appending hp hn)
    simp [move, hp, hn]
  | sending batch trigger age next =>
    have hw : s.store.stalled = true := by
      by_contra hw
      exact h (canMove_of_sending hp (by simpa using hw))
    simp [move, hp, hw]
  | ended failure => simp [move, hp]

/-- The rules are the moves of the loop. -/
theorem move_eq_some_iff {s t : State α} :
    s.move = some t ↔ ∃ taken refused, LoopMove s taken refused t := by
  constructor
  · intro h
    by_cases hc : s.CanMove
    · obtain ⟨taken, refused, u, hu⟩ := hc
      have hut : u = t := Option.some.inj ((move_of_loopMove hu).symm.trans h)
      exact ⟨taken, refused, hut ▸ hu⟩
    · rw [move_eq_none_of_not_canMove hc] at h
      cases h
  · rintro ⟨_, _, h⟩
    exact move_of_loopMove h

theorem move_eq_none_iff {s : State α} : s.move = none ↔ ¬ s.CanMove := by
  refine ⟨?_, move_eq_none_of_not_canMove⟩
  rintro h ⟨_, _, t, ht⟩
  rw [move_of_loopMove ht] at h
  cases h

end State
end Pageviews.Writer
