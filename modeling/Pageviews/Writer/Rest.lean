import Pageviews.Writer.Loop
import Pageviews.Writer.Producers

/-!
Coming to rest: the loop moves until it waits, then the producers go on until they wait, and so on
until nothing more can happen at the current time. Main statements: every move of the loop lowers
`loopWork`, and neither side raises `work`.
-/
namespace Pageviews.Writer

/-- The moves that a phase can still bring about. -/
def Phase.work {α : Type} : Phase α → Nat
  | .ended _ => 0
  | .idle none => 1
  | .idle (some _) => 4
  | .sending _ _ _ (.append _) => 10
  | .sending _ _ _ _ => 3
  | .appending _ _ _ => 8

def drainWork : Bool → Nat
  | true => 0
  | false => 1

def total : List Nat → Nat
  | [] => 0
  | n :: ns => n + total ns

theorem total_append (ns ms : List Nat) : total (ns ++ ms) = total ns + total ms := by
  induction ns with
  | nil => simp [total]
  | cons n ns ih => simp only [List.cons_append, total, ih, Nat.add_assoc]

theorem drainWork_le_one (draining : Bool) : drainWork draining ≤ 1 := by cases draining <;> decide

namespace State

variable {α : Type}

/-- A bound on the moves that the loop can make by itself. -/
def loopWork (s : State α) : Nat :=
  s.phase.work + 20 * s.queue.length + drainWork s.draining

theorem loopWork_stop (s : State α) (failure : Option Failure) : (s.stop failure).loopWork ≤ 1 := by
  have := drainWork_le_one s.draining
  simp only [stop, wakeAll, loopWork, Phase.work, List.length_nil]
  omega

theorem loopWork_startAppend (s : State α) (row : α) (batch : Batch α) :
    (s.startAppend row batch).loopWork ≤
      8 + 20 * s.queue.length + drainWork s.draining := by
  unfold startAppend
  split
  · have := loopWork_stop s (some .appending); omega
  · simp only [loopWork, Phase.work]; omega

theorem loopWork_openFor (s : State α) (row : α) :
    (s.openFor row).loopWork ≤ 8 + 20 * s.queue.length + drainWork s.draining := by
  unfold openFor
  split
  · have := loopWork_stop s (some .opening); omega
  · exact loopWork_startAppend ..

theorem loopWork_deliver (s : State α) (current : Option (Batch α)) (row : α) :
    (s.deliver current row).loopWork ≤
      10 + 20 * s.queue.length + drainWork s.draining := by
  unfold deliver
  split
  · have := loopWork_openFor s row; omega
  · next batch =>
    split
    · simp only [startSend, loopWork, Phase.work]; omega
    · have := loopWork_startAppend s row batch; omega

@[simp] theorem queue_grantSlot (s : State α) : s.grantSlot.queue = s.queue := by
  unfold grantSlot
  split <;> rfl

@[simp] theorem draining_grantSlot (s : State α) : s.grantSlot.draining = s.draining := by
  unfold grantSlot
  split <;> rfl

theorem one_le_work_idle (current : Option (Batch α)) : 1 ≤ (Phase.idle current).work := by
  cases current <;> simp [Phase.work]

/-- Every move of an idle loop lowers its work. -/
theorem loopWork_idleMove {s t : State α} {current : Option (Batch α)}
    (hp : s.phase = .idle current) (h : s.idleMove current = some t) :
    t.loopWork < s.loopWork := by
  have hs : s.loopWork = (Phase.idle current).work + 20 * s.queue.length +
      drainWork s.draining := by rw [loopWork, hp]
  have hone := one_le_work_idle current
  unfold idleMove at h
  split at h
  · next hd =>
    split at h
    · next row queue hq =>
      cases h
      have := loopWork_deliver { s with queue } current row
      rw [hs, hq, List.length_cons]; simp only at this; omega
    · split at h
      · cases h
        rw [hs]
        simp only [startSend, loopWork, Phase.work]; omega
      · cases h
        rw [hs, hd]
        simp only [stop, wakeAll, loopWork, Phase.work, hd, List.length_nil]; omega
  · next hd =>
    simp only [Bool.not_eq_true] at hd
    split at h
    · cases h
      rw [hs, hd]
      simp [beginDrain, wakeAll, loopWork, hp, drainWork]
    · split at h
      · cases current with
        | none => cases h
        | some batch =>
          cases h
          rw [hs]
          simp only [startSend, loopWork, Phase.work]; omega
      · split at h
        · next row queue hq =>
          cases h
          have := loopWork_deliver ({ s with queue } : State α).grantSlot current row
          rw [queue_grantSlot, draining_grantSlot] at this
          rw [hs, hq, List.length_cons]; simp only at this; omega
        · cases h

theorem loopWork_appended (s : State α) (row : α) (batch : Batch α) :
    (s.appended row batch).loopWork ≤ 4 + 20 * s.queue.length + drainWork s.draining := by
  unfold appended
  dsimp only
  split
  · simp only [startSend, loopWork, Phase.work]; omega
  · split
    · simp only [startSend, loopWork, Phase.work]; omega
    · simp only [loopWork, Phase.work]; omega

/-- Sending a batch lowers the work of the phase that sends it. -/
theorem loopWork_send {s : State α} {batch : Batch α} {trigger : Trigger} {age : Nat}
    {next : Next α} (hp : s.phase = .sending batch trigger age next) :
    (s.send batch trigger age next).loopWork < s.loopWork := by
  have hs : s.loopWork = (Phase.sending batch trigger age next).work + 20 * s.queue.length +
      drainWork s.draining := by rw [loopWork, hp]
  rw [hs]
  unfold send
  split
  · have := loopWork_stop s (some (.sending batch.rows.length))
    cases next <;> simp only [Phase.work] <;> omega
  · cases next with
    | wait => simp only [kept, loopWork, Phase.work]; omega
    | append row =>
      have := loopWork_openFor (s.kept batch trigger age) row
      simp only [kept] at this ⊢
      simp only [Phase.work]; omega
    | stop =>
      have := loopWork_stop (s.kept batch trigger age) none
      simp only [Phase.work]; omega

/-- Every move of the loop lowers its work. -/
theorem loopWork_move {s t : State α} (h : s.move = some t) : t.loopWork < s.loopWork := by
  unfold move at h
  split at h
  · next hp => exact loopWork_idleMove hp h
  · next row batch until_ hp =>
    split at h
    · cases h
      have := loopWork_appended s row batch
      have hs : s.loopWork = 8 + 20 * s.queue.length + drainWork s.draining := by
        rw [loopWork, hp, Phase.work]
      omega
    · cases h
  · next hp =>
    split at h
    · cases h
    · cases h; exact loopWork_send hp
  · cases h

def rowCounts (s : State α) : List Nat := (s.ready ++ s.waiting).map (·.rows.length)

@[simp] theorem rowCounts_stop (s : State α) (failure : Option Failure) :
    (s.stop failure).rowCounts = s.rowCounts := by
  simp [rowCounts, stop, wakeAll]

@[simp] theorem rowCounts_startAppend (s : State α) (row : α) (batch : Batch α) :
    (s.startAppend row batch).rowCounts = s.rowCounts := by
  unfold startAppend
  split
  · exact rowCounts_stop ..
  · rfl

@[simp] theorem rowCounts_openFor (s : State α) (row : α) :
    (s.openFor row).rowCounts = s.rowCounts := by
  unfold openFor
  split
  · exact rowCounts_stop ..
  · exact rowCounts_startAppend ..

@[simp] theorem rowCounts_deliver (s : State α) (current : Option (Batch α)) (row : α) :
    (s.deliver current row).rowCounts = s.rowCounts := by
  unfold deliver
  split
  · exact rowCounts_openFor ..
  · split
    · rfl
    · exact rowCounts_startAppend ..

@[simp] theorem rowCounts_grantSlot (s : State α) : s.grantSlot.rowCounts = s.rowCounts := by
  unfold grantSlot
  split
  · rfl
  · next hw => simp [rowCounts, hw]

theorem rowCounts_idleMove {s t : State α} {current : Option (Batch α)}
    (h : s.idleMove current = some t) : t.rowCounts = s.rowCounts := by
  unfold idleMove at h
  split at h
  · split at h
    · cases h; exact rowCounts_deliver ..
    · split at h <;> cases h
      · rfl
      · exact rowCounts_stop ..
  · split at h
    · cases h
      simp [rowCounts, beginDrain, wakeAll]
    · split at h
      · cases current <;> cases h
        rfl
      · split at h <;> cases h
        rw [rowCounts_deliver, rowCounts_grantSlot]; rfl

theorem rowCounts_appended (s : State α) (row : α) (batch : Batch α) :
    (s.appended row batch).rowCounts = s.rowCounts := by
  unfold appended
  dsimp only
  split
  · rfl
  · split <;> rfl

theorem rowCounts_send (s : State α) (batch : Batch α) (trigger : Trigger) (age : Nat)
    (next : Next α) : (s.send batch trigger age next).rowCounts = s.rowCounts := by
  unfold send
  split
  · exact rowCounts_stop ..
  · cases next with
    | wait => rfl
    | append row => exact rowCounts_openFor ..
    | stop => exact rowCounts_stop ..

/-- The loop leaves the producers what they have to store. -/
theorem rowCounts_move {s t : State α} (h : s.move = some t) : t.rowCounts = s.rowCounts := by
  unfold move at h
  split at h
  · exact rowCounts_idleMove h
  · split at h <;> cases h
    exact rowCounts_appended ..
  · split at h <;> cases h
    exact rowCounts_send ..
  · cases h

/-- A bound on the moves of loop and producers together. -/
def work (s : State α) : Nat := s.loopWork + 21 * total s.rowCounts + s.rowCounts.length

theorem work_move {s t : State α} (h : s.move = some t) : t.work < s.work := by
  have := loopWork_move h
  rw [work, work, rowCounts_move h]; omega

/-- Let the loop move until it has to wait. -/
def runLoop (s : State α) : State α :=
  match _h : s.move with
  | none => s
  | some next => next.runLoop
termination_by s.loopWork
decreasing_by exact loopWork_move _h

/-- A loop that does not wait already lowers the work. -/
theorem runLoop_eq_or_work_lt (s : State α) : s.runLoop = s ∨ s.runLoop.work < s.work := by
  fun_induction runLoop s with
  | case1 s _ => exact .inl rfl
  | case2 s next h ih =>
    have := work_move h
    rcases ih with ih | ih
    · rw [ih]; exact .inr this
    · exact .inr (by omega)

def readyWork (s : State α) : Nat := total (s.ready.map (·.rows.length + 1))

theorem readyWork_produce {s : State α} {producer : Producer α} {others : List (Producer α)}
    (h : s.ready = producer :: others) : (s.produce producer others).readyWork < s.readyWork := by
  simp only [readyWork, h, List.map_cons, total]
  unfold produce
  split
  · simp only [retire]; omega
  · next hr =>
    rw [hr]
    split
    · simp only [retire]; omega
    · split
      · simp only [accept, List.map_cons, total, List.length_cons]; omega
      · dsimp only; omega

theorem work_produce {s : State α} {producer : Producer α} {others : List (Producer α)}
    (h : s.ready = producer :: others) : (s.produce producer others).work ≤ s.work := by
  simp only [work, loopWork, rowCounts, h]
  unfold produce
  split
  · simp only [retire, List.map_cons, List.cons_append, total, List.length_cons]; omega
  · next hr =>
    split
    · simp only [retire, List.map_cons, List.cons_append, total, List.length_cons]; omega
    · split
      · simp only [accept, hr, List.map_cons, List.cons_append, total, List.length_cons,
          List.length_append, List.length_nil]
        omega
      · simp only [List.map_cons, List.cons_append, total, List.length_cons,
          List.map_append, total_append, List.length_append, List.map_nil, total,
          List.length_nil, List.length_map]
        omega

/-- Let the producers go on until each of them waits or has ended. -/
def runProducers (s : State α) : State α :=
  match _h : s.ready with
  | [] => s
  | producer :: others => (s.produce producer others).runProducers
termination_by s.readyWork
decreasing_by exact readyWork_produce _h

theorem work_runProducers_le (s : State α) : s.runProducers.work ≤ s.work := by
  fun_induction runProducers s with
  | case1 s _ => exact Nat.le_refl _
  | case2 s producer others h ih => exact Nat.le_trans ih (work_produce h)

theorem ready_runProducers (s : State α) : s.runProducers.ready = [] := by
  fun_induction runProducers s with
  | case1 s h => exact h
  | case2 s producer others h ih => exact ih

/-- Loop and producers in turn, until nothing more can happen at the current time. -/
def settle (s : State α) : State α :=
  if _h : s.runLoop.ready = [] then s.runLoop else s.runLoop.runProducers.settle
termination_by (s.work, s.ready.length)
decreasing_by
  have hp := work_runProducers_le s.runLoop
  rw [Prod.lex_def]
  rcases runLoop_eq_or_work_lt s with hl | hl
  · rw [hl] at _h hp ⊢
    rw [ready_runProducers]
    have := List.length_pos_iff.mpr _h
    simp only [List.length_nil]
    omega
  · left; dsimp only; omega

end State
end Pageviews.Writer
