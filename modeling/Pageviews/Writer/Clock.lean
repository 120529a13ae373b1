import Pageviews.Writer.Rest

/-!
The clock, which moves only when it is told to. What falls due on the way happens at its own time,
in order. Main statement: coming to rest takes no time.
-/
namespace Pageviews.Writer

namespace State

variable {α : Type}

@[simp] theorem now_stop (s : State α) (failure : Option Failure) : (s.stop failure).now = s.now :=
  rfl

@[simp] theorem now_startAppend (s : State α) (row : α) (batch : Batch α) :
    (s.startAppend row batch).now = s.now := by
  unfold startAppend
  split <;> rfl

@[simp] theorem now_openFor (s : State α) (row : α) : (s.openFor row).now = s.now := by
  unfold openFor
  split
  · rfl
  · exact now_startAppend ..

@[simp] theorem now_deliver (s : State α) (current : Option (Batch α)) (row : α) :
    (s.deliver current row).now = s.now := by
  unfold deliver
  split
  · exact now_openFor ..
  · split
    · rfl
    · exact now_startAppend ..

@[simp] theorem now_grantSlot (s : State α) : s.grantSlot.now = s.now := by
  unfold grantSlot
  split <;> rfl

theorem now_idleMove {s t : State α} {current : Option (Batch α)}
    (h : s.idleMove current = some t) : t.now = s.now := by
  unfold idleMove at h
  split at h
  · split at h
    · cases h; exact now_deliver ..
    · split at h <;> cases h <;> rfl
  · split at h
    · cases h; rfl
    · split at h
      · cases current <;> cases h
        rfl
      · split at h <;> cases h
        rw [now_deliver, now_grantSlot]

theorem now_appended (s : State α) (row : α) (batch : Batch α) :
    (s.appended row batch).now = s.now := by
  unfold appended
  dsimp only
  split
  · rfl
  · split <;> rfl

theorem now_send (s : State α) (batch : Batch α) (trigger : Trigger) (age : Nat) (next : Next α) :
    (s.send batch trigger age next).now = s.now := by
  unfold send
  split
  · rfl
  · cases next with
    | wait => rfl
    | append row => exact now_openFor ..
    | stop => rfl

theorem now_move {s t : State α} (h : s.move = some t) : t.now = s.now := by
  unfold move at h
  split at h
  · exact now_idleMove h
  · split at h <;> cases h
    exact now_appended ..
  · split at h <;> cases h
    exact now_send ..
  · cases h

theorem now_produce (s : State α) (producer : Producer α) (others : List (Producer α)) :
    (s.produce producer others).now = s.now := by
  unfold produce
  split
  · rfl
  · split
    · rfl
    · split <;> rfl

@[simp] theorem now_runLoop (s : State α) : s.runLoop.now = s.now := by
  fun_induction runLoop s with
  | case1 => rfl
  | case2 s next h ih => rw [ih, now_move h]

@[simp] theorem now_runProducers (s : State α) : s.runProducers.now = s.now := by
  fun_induction runProducers s with
  | case1 => rfl
  | case2 s producer others h ih => rw [ih, now_produce]

/-- Coming to rest takes no time. -/
@[simp] theorem now_settle (s : State α) : s.settle.now = s.now := by
  fun_induction settle s with
  | case1 s h => exact now_runLoop s
  | case2 s h ih => rw [ih, now_runProducers, now_runLoop]

/-- When the loop, which waits, will go on by itself: at the end of a batch's age or of an append. -/
def due? (s : State α) : Option Nat :=
  match s.phase with
  | .idle (some batch) => some (batch.openedAt + s.policy.batchAge)
  | .appending _ _ until_ => some until_
  | _ => none

/-- Move the clock to a time, stopping where something falls due. -/
def advanceTo (s : State α) (target : Nat) : State α :=
  match s.due? with
  | none => { s with now := target }
  | some due =>
    if _h : s.now < due ∧ due ≤ target then
      ({ s with now := due } : State α).settle.advanceTo target
    else { s with now := target }
termination_by target - s.now
decreasing_by rw [now_settle]; dsimp only; omega

end State
end Pageviews.Writer
