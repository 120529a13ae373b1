import Pageviews.Proofs.Writer.Path

/-! What the loop leaves to the producers, and what a closed writer does to them. -/
namespace Pageviews.Writer

variable {α : Type}

/-- What a producer that has not ended has done and has left to do. -/
structure Entry (α : Type) where
  id : Nat
  rows : List α
  stored : Nat

namespace State

def roster (s : State α) : List (Entry α) :=
  (s.ready ++ s.waiting).map fun p => ⟨p.id, p.rows, p.stored⟩

theorem roster_of_ready {s : State α} {producer : Producer α} {others : List (Producer α)}
    (h : s.ready = producer :: others) :
    s.roster = ⟨producer.id, producer.rows, producer.stored⟩ ::
      (others ++ s.waiting).map fun p => ⟨p.id, p.rows, p.stored⟩ := by
  rw [roster, h]
  rfl

theorem mem_roster {s : State α} {p : Producer α} (h : p ∈ s.ready ++ s.waiting) :
    ⟨p.id, p.rows, p.stored⟩ ∈ s.roster :=
  List.mem_map.mpr ⟨p, h, rfl⟩

end State

/-- What no move of the loop changes. -/
structure Keeps (s t : State α) : Prop where
  policy : t.policy = s.policy
  now : t.now = s.now
  stalled : t.store.stalled = s.store.stalled
  delay : t.store.delay = s.store.delay
  failure : t.store.failure = s.store.failure
  signalled : t.signalled = s.signalled
  held : t.held = s.held
  spawned : t.spawned = s.spawned
  accepted : t.accepted = s.accepted
  ended : t.ended = s.ended
  roster : t.roster = s.roster
  draining : s.draining = true → t.draining = true

namespace Keeps

theorem refl (s : State α) : Keeps s s := by
  constructor <;> first | rfl | exact id

theorem trans {s t u : State α} (h : Keeps s t) (ht : Keeps t u) : Keeps s u where
  policy := ht.policy.trans h.policy
  now := ht.now.trans h.now
  stalled := ht.stalled.trans h.stalled
  delay := ht.delay.trans h.delay
  failure := ht.failure.trans h.failure
  signalled := ht.signalled.trans h.signalled
  held := ht.held.trans h.held
  spawned := ht.spawned.trans h.spawned
  accepted := ht.accepted.trans h.accepted
  ended := ht.ended.trans h.ended
  roster := ht.roster.trans h.roster
  draining := ht.draining ∘ h.draining

/-- The phase, the queue and the batches of the store are the loop's own. -/
theorem own {s t : State α}
    (h : t = { s with
      phase := t.phase, queue := t.queue, notices := t.notices
      batchesSent := t.batchesSent, rowsSent := t.rowsSent
      store := { s.store with opened := t.store.opened, sent := t.store.sent } }) :
    Keeps s t := by
  rw [h]
  constructor <;> first | rfl | exact id

end Keeps

namespace State

theorem roster_wakeAll (s : State α) : s.wakeAll.roster = s.roster := by
  simp [roster, wakeAll]

theorem keeps_stop (s : State α) (failure : Option Failure) : Keeps s (s.stop failure) where
  policy := rfl
  now := rfl
  stalled := rfl
  delay := rfl
  failure := rfl
  signalled := rfl
  held := rfl
  spawned := rfl
  accepted := rfl
  ended := rfl
  roster := roster_wakeAll s
  draining := id

theorem keeps_beginDrain (s : State α) : Keeps s s.beginDrain where
  policy := rfl
  now := rfl
  stalled := rfl
  delay := rfl
  failure := rfl
  signalled := rfl
  held := rfl
  spawned := rfl
  accepted := rfl
  ended := rfl
  roster := roster_wakeAll s
  draining := fun _ => rfl

theorem keeps_grantSlot (s : State α) : Keeps s s.grantSlot := by
  unfold grantSlot
  split
  · exact .refl s
  · next producer others hw =>
    constructor <;> first | rfl | exact id | simp [roster, hw]

/-- A row is taken out of the queue before anything else. -/
theorem keeps_take (s : State α) (queue : List α) :
    Keeps s ({ s with queue } : State α).grantSlot := by
  have hq : Keeps s { s with queue } := .own rfl
  exact hq.trans (keeps_grantSlot _)

theorem keeps_kept (s : State α) (batch : Batch α) (trigger : Trigger) (age : Nat) :
    Keeps s (s.kept batch trigger age) := .own rfl

end State

theorem Delivery.keeps {s t : State α} {row : α} {current : Option (Batch α)}
    {taken : List (Call α)} {refused : Option (Call α)}
    (h : Delivery s row current taken refused t) : Keeps s t := by
  cases h with
  | notOpened | notNext => exact s.keeps_stop _
  | notFirst =>
    have hopened : Keeps s { s with store := s.store.countOpened } := .own rfl
    exact hopened.trans (State.keeps_stop _ _)
  | first | tooOld | next => exact .own rfl

theorem LoopMove.keeps {s t : State α} {taken : List (Call α)} {refused : Option (Call α)}
    (h : LoopMove s taken refused t) : Keeps s t := by
  cases h with
  | beginDrain => exact s.keeps_beginDrain
  | take _ _ _ _ _ _ h => exact (s.keeps_take _).trans h.keeps
  | @takeLate _ _ queue _ _ _ _ _ _ h =>
    have hq : Keeps s { s with queue } := .own rfl
    exact hq.trans h.keeps
  | finish | notSent => exact s.keeps_stop _
  | sentBefore _ _ _ h => exact (s.keeps_kept ..).trans h.keeps
  | sentLast => exact (s.keeps_kept ..).trans (State.keeps_stop _ _)
  | expire | flush | fill | outlive | join | sent => exact .own rfl

theorem Path.policy {s t : State α} {events : List (Event α)} (h : Path s events t) :
    t.policy = s.policy := by
  induction h with
  | refl => rfl
  | snoc _ ht ih =>
    cases ht with
    | loop h => exact h.keeps.policy.trans ih
    | produce _ h => cases h <;> exact ih
    | clock => exact ih
    | @step step ha =>
      cases step with
      | advance => cases ha
      | _ => exact ih

/-- The policy is the one that the writer was made with. -/
theorem Path.policy_eq {policy : Policy} {start s : State α} {events : List (Event α)}
    (hs : State.spawn? policy = some start) (h : Path start events s) : s.policy = policy := by
  rw [h.policy, State.eq_fresh hs, State.fresh]

theorem LoopMove.hasEnded_eq_false {s t : State α} {taken : List (Call α)}
    {refused : Option (Call α)} (h : LoopMove s taken refused t) : s.hasEnded = false := by
  cases h <;> simp [State.hasEnded, *]

end Pageviews.Writer
