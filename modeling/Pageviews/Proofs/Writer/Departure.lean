import Pageviews.Proofs.Writer.Turns

/-! A writer that nobody holds any more. Main statement: to give up the last hold on a writer has
the effects of a shutdown, step by step. -/
namespace Pageviews.Writer

variable {α : Type}

namespace State

/-- The state if a shutdown had been asked for and the writer had not been given up. -/
def asSignalled (s : State α) : State α := { s with held := true, signalled := true }

theorem asSignalled_startAppend (s : State α) (row : α) (batch : Batch α) :
    (s.startAppend row batch).asSignalled = s.asSignalled.startAppend row batch := by
  unfold startAppend
  rw [apply_ite asSignalled]
  rfl

theorem asSignalled_openFor (s : State α) (row : α) :
    (s.openFor row).asSignalled = s.asSignalled.openFor row := by
  unfold openFor
  rw [apply_ite asSignalled, asSignalled_startAppend]
  rfl

theorem asSignalled_deliver (s : State α) (current : Option (Batch α)) (row : α) :
    (s.deliver current row).asSignalled = s.asSignalled.deliver current row := by
  cases current with
  | none => exact s.asSignalled_openFor row
  | some batch =>
    unfold deliver
    rw [apply_ite asSignalled, asSignalled_startAppend]
    rfl

theorem asSignalled_appended (s : State α) (row : α) (batch : Batch α) :
    (s.appended row batch).asSignalled = s.asSignalled.appended row batch := by
  unfold appended
  dsimp only
  rw [apply_ite asSignalled, apply_ite asSignalled]
  rfl

theorem asSignalled_send (s : State α) (batch : Batch α) (trigger : Trigger) (age : Nat)
    (next : Next α) :
    (s.send batch trigger age next).asSignalled = s.asSignalled.send batch trigger age next := by
  unfold send
  rw [apply_ite asSignalled]
  cases next with
  | wait | stop => rfl
  | append row =>
    rw [asSignalled_openFor]
    rfl

/-- An idle loop sees that the writer was given up where it would see the shutdown. -/
theorem asSignalled_idleMove {s : State α} (ha : s.isAbandoned = true)
    (current : Option (Batch α)) :
    (s.idleMove current).map asSignalled = s.asSignalled.idleMove current := by
  have hseen : (s.signalled || s.isAbandoned) = true := by rw [ha, Bool.or_true]
  have hseen' : (s.asSignalled.signalled || s.asSignalled.isAbandoned) = true := Bool.true_or _
  cases hd : s.draining with
  | false =>
    have hd' : s.asSignalled.draining = false := hd
    simp only [idleMove, hd, hd', hseen, hseen']
    rfl
  | true =>
    have hd' : s.asSignalled.draining = true := hd
    simp only [idleMove, hd, hd', if_true]
    cases hq : s.queue with
    | nil =>
      have hq' : s.asSignalled.queue = [] := hq
      simp only [hq']
      cases current <;> rfl
    | cons row queue =>
      have hq' : s.asSignalled.queue = row :: queue := hq
      simp only [hq', Option.map_some, asSignalled_deliver]
      rfl

/-- The loop moves in the same way. -/
theorem asSignalled_move {s : State α} (ha : s.isAbandoned = true) :
    s.move.map asSignalled = s.asSignalled.move := by
  have hphase : s.asSignalled.phase = s.phase := rfl
  unfold move
  rw [hphase]
  cases s.phase with
  | idle current => exact asSignalled_idleMove ha current
  | appending row batch until_ =>
    dsimp only
    rw [apply_ite (Option.map asSignalled), Option.map_some, asSignalled_appended]
    rfl
  | sending batch trigger age next =>
    dsimp only
    rw [apply_ite (Option.map asSignalled), Option.map_some, asSignalled_send]
    rfl
  | ended failure => rfl

theorem isAbandoned_iff {s : State α} :
    s.isAbandoned = true ↔ s.held = false ∧ s.roster = [] := by
  simp [isAbandoned, roster, and_assoc]

end State

/-- The loop does not bring anybody back. -/
theorem Keeps.isAbandoned {s t : State α} (h : Keeps s t) (ha : s.isAbandoned = true) :
    t.isAbandoned = true := by
  rw [State.isAbandoned_iff] at ha ⊢
  exact ⟨h.held.trans ha.1, h.roster.trans ha.2⟩

namespace State

theorem isAbandoned_runLoop {s : State α} (ha : s.isAbandoned = true) :
    s.runLoop.isAbandoned = true := by
  fun_induction runLoop s with
  | case1 => exact ha
  | case2 s next h ih =>
    obtain ⟨_, _, hm⟩ := move_eq_some_iff.mp h
    exact ih (hm.keeps.isAbandoned ha)

theorem runLoop_of_move_eq_some {s t : State α} (h : s.move = some t) : s.runLoop = t.runLoop := by
  rw [runLoop]
  split
  · next hm =>
    rw [h] at hm
    cases hm
  · next hm =>
    rw [h] at hm
    cases hm
    rfl

theorem asSignalled_runLoop {s : State α} (ha : s.isAbandoned = true) :
    s.runLoop.asSignalled = s.asSignalled.runLoop := by
  fun_induction runLoop s with
  | case1 s h =>
    have hm : s.asSignalled.move = none := by rw [← asSignalled_move ha, h, Option.map_none]
    rw [runLoop_of_move hm]
  | case2 s next h ih =>
    have hm : s.asSignalled.move = some next.asSignalled := by
      rw [← asSignalled_move ha, h, Option.map_some]
    obtain ⟨_, _, hloop⟩ := move_eq_some_iff.mp h
    rw [ih (hloop.keeps.isAbandoned ha), runLoop_of_move_eq_some hm]

theorem ready_of_isAbandoned {s : State α} (ha : s.isAbandoned = true) : s.ready = [] := by
  simp only [isAbandoned, Bool.and_eq_true, List.isEmpty_iff] at ha
  exact ha.1.2

/-- Without producers the writer is at rest once the loop waits. -/
theorem settle_of_isAbandoned {s : State α} (ha : s.isAbandoned = true) :
    s.settle = s.runLoop := by
  rw [settle, dif_pos (ready_of_isAbandoned (isAbandoned_runLoop ha))]

theorem isAbandoned_settle {s : State α} (ha : s.isAbandoned = true) :
    s.settle.isAbandoned = true := by
  rw [settle_of_isAbandoned ha]
  exact isAbandoned_runLoop ha

theorem asSignalled_settle {s : State α} (ha : s.isAbandoned = true) :
    s.settle.asSignalled = s.asSignalled.settle := by
  have hready := ready_of_isAbandoned (isAbandoned_runLoop ha)
  have hready' : s.asSignalled.runLoop.ready = [] := by
    rw [← asSignalled_runLoop ha]
    exact hready
  rw [settle_of_isAbandoned ha, asSignalled_runLoop ha, settle, dif_pos hready']

theorem isAbandoned_advanceTo {s : State α} (ha : s.isAbandoned = true) (target : Nat) :
    (s.advanceTo target).isAbandoned = true := by
  fun_induction advanceTo s target with
  | case1 | case3 => exact ha
  | case2 s due hd hdue ih => exact ih (isAbandoned_settle ha)

/-- The same things fall due on the way. -/
theorem asSignalled_advanceTo {s : State α} (ha : s.isAbandoned = true) (target : Nat) :
    (s.advanceTo target).asSignalled = s.asSignalled.advanceTo target := by
  have hdue (s : State α) : s.asSignalled.due? = s.due? := rfl
  have hnow (s : State α) : s.asSignalled.now = s.now := rfl
  fun_induction advanceTo s target with
  | case1 s hd =>
    rw [advanceTo.eq_def s.asSignalled, hdue, hd]
    rfl
  | case2 s due hd hle ih =>
    have hlater : ({ s with now := due } : State α).isAbandoned = true := ha
    rw [ih (isAbandoned_settle hlater), asSignalled_settle hlater, advanceTo.eq_def s.asSignalled,
      hdue, hd]
    dsimp only
    rw [hnow, dif_pos hle]
    rfl
  | case3 s due hd hle =>
    rw [advanceTo.eq_def s.asSignalled, hdue, hd]
    dsimp only
    rw [hnow, dif_neg hle]
    rfl

theorem isAbandoned_perform {s : State α} {step : Step α} (ha : s.isAbandoned = true)
    (hw : step.needsWriter = false) : (s.perform step).isAbandoned = true := by
  cases step with
  | store | shutdown | drop => cases hw
  | advance time => exact isAbandoned_advanceTo ha _
  | stall | resume | slowAppends | failOn | look => exact ha

theorem asSignalled_perform {s : State α} {step : Step α} (ha : s.isAbandoned = true)
    (hw : step.needsWriter = false) :
    (s.perform step).asSignalled = s.asSignalled.perform step := by
  cases step with
  | store | shutdown | drop => cases hw
  | advance time => exact asSignalled_advanceTo ha _
  | stall | resume | slowAppends | failOn | look => rfl

theorem step?_of_needsWriter {s : State α} {step : Step α} (hw : step.needsWriter = false) :
    s.step? step = some (s.take step) := by
  rw [step?, hw, Bool.false_and, if_neg Bool.false_ne_true]

theorem run?_cons_eq_some {s t : State α} {step : Step α} {steps : List (Step α)}
    {states : List (State α)} (h : s.step? step = some t) (ht : t.run? steps = some states) :
    s.run? (step :: steps) = some (t :: states) := by
  rw [run?, h]
  dsimp only [Option.bind_eq_bind, Option.bind_some]
  rw [ht]
  rfl

/-- Step by step, what a writer that was given up does is what a shutdown makes it do. -/
theorem asSignalled_run? {s : State α} (ha : s.isAbandoned = true) {steps : List (Step α)}
    (hw : ∀ step ∈ steps, step.needsWriter = false) :
    ∃ states, s.run? steps = some states ∧
      s.asSignalled.run? steps = some (states.map asSignalled) := by
  induction steps generalizing s with
  | nil => exact ⟨[], rfl, rfl⟩
  | cons step steps ih =>
    obtain ⟨hstep, hsteps⟩ := List.forall_mem_cons.mp hw
    have hperform := isAbandoned_perform ha hstep
    have htake : (s.take step).asSignalled = s.asSignalled.take step := by
      rw [take, asSignalled_settle hperform, asSignalled_perform ha hstep, take]
    have hsignalled : s.asSignalled.step? step = some (s.take step).asSignalled := by
      rw [step?_of_needsWriter hstep, htake]
    obtain ⟨states, hs, ht⟩ := ih (isAbandoned_settle hperform) hsteps
    exact ⟨s.take step :: states, run?_cons_eq_some (step?_of_needsWriter hstep) hs,
      run?_cons_eq_some hsignalled ht⟩

/-- To give up a writer that no producer has is a shutdown, but for who asked. -/
theorem asSignalled_run?_drop {s : State α} (hr : s.IsAtRest) (hh : s.held = true)
    (hwait : s.waiting = []) {steps : List (Step α)}
    (hw : ∀ step ∈ steps, step.needsWriter = false) :
    ∃ states, s.run? (.drop :: steps) = some states ∧
      s.run? (.shutdown :: steps) = some (states.map asSignalled) := by
  have ha : (s.perform .drop).isAbandoned = true := by simp [perform, isAbandoned, hr.2, hwait]
  have hperform : (s.perform .drop).asSignalled = s.perform .shutdown := by
    simp only [perform, asSignalled, ← hh]
  have htake : (s.take .drop).asSignalled = s.take .shutdown := by
    rw [take, asSignalled_settle ha, hperform, take]
  have hdrop : s.step? .drop = some (s.take .drop) := by simp [step?, hh]
  have hshutdown : s.step? .shutdown = some (s.take .drop).asSignalled := by
    simp [step?, hh, htake]
  obtain ⟨states, hs, ht⟩ := asSignalled_run? (isAbandoned_settle ha) hw
  exact ⟨s.take .drop :: states, run?_cons_eq_some hdrop hs, run?_cons_eq_some hshutdown ht⟩

/-- A run goes on from its last answer. -/
theorem run?_append {s t : State α} {steps : List (Step α)} {states : List (State α)}
    (h : s.run? steps = some states) (ht : (s :: states).getLast? = some t)
    (more : List (Step α)) : s.run? (steps ++ more) = (t.run? more).map (states ++ ·) := by
  induction steps generalizing s states with
  | nil =>
    cases h
    cases ht
    simp
  | cons step steps ih =>
    simp only [run?, Option.bind_eq_bind, Option.bind_eq_some_iff, Option.pure_def,
      Option.some.injEq] at h
    obtain ⟨u, hu, rest, hrest, rfl⟩ := h
    rw [List.getLast?_cons_cons] at ht
    rw [List.cons_append, run?, hu]
    dsimp only [Option.bind_eq_bind, Option.bind_some]
    rw [ih hrest ht]
    cases t.run? more <;> rfl

/-- A run leaves the writer at rest. -/
theorem isAtRest_of_getLast? {s t : State α} {steps : List (Step α)} {states : List (State α)}
    (hr : s.IsAtRest) (h : s.run? steps = some states) (ht : (s :: states).getLast? = some t) :
    t.IsAtRest := by
  rw [List.getLast?_cons, Option.some.injEq] at ht
  cases hlast : states.getLast? with
  | none =>
    rw [hlast] at ht
    exact ht ▸ hr
  | some u =>
    rw [hlast] at ht
    obtain rfl : u = t := ht
    rw [List.getLast?_eq_getElem?] at hlast
    exact (exists_path_of_run? hr h hlast).1

end State

/-- Once no producer waits, to give the writer up has the effects of a shutdown: whatever time,
stalls, slow appends and failures follow, the answers differ in nothing but who asked. -/
theorem drop_eq_shutdown {policy : Policy} {start : State α}
    (hs : State.spawn? policy = some start) :
    (∀ s : State α, s.IsAtRest → s.held = true → s.waiting = [] → ∀ more : List (Step α),
      (∀ step ∈ more, step.needsWriter = false) →
        ∃ answers, s.run? (.drop :: more) = some answers ∧
          s.run? (.shutdown :: more) = some (answers.map State.asSignalled)) ∧
    ∀ (before : List (Step α)) (states : List (State α)) (s : State α),
      start.run? before = some states → (start :: states).getLast? = some s →
      s.held = true → s.waiting = [] → ∀ more : List (Step α),
      (∀ step ∈ more, step.needsWriter = false) →
        ∃ answers, start.run? (before ++ .drop :: more) = some (states ++ answers) ∧
          start.run? (before ++ .shutdown :: more) =
            some (states ++ answers.map State.asSignalled) := by
  constructor
  · exact fun s hr hh hwait more hw => State.asSignalled_run?_drop hr hh hwait hw
  · intro before states s hrun hlast hh hwait more hw
    have hr : s.IsAtRest := State.isAtRest_of_getLast? (State.isAtRest_of_spawn? hs) hrun hlast
    obtain ⟨answers, hdrop, hshutdown⟩ := State.asSignalled_run?_drop hr hh hwait hw
    refine ⟨answers, ?_, ?_⟩
    · rw [State.run?_append hrun hlast, hdrop, Option.map_some]
    · rw [State.run?_append hrun hlast, hshutdown, Option.map_some]

/-- The writer is given up during a slow append, with rows in the queue and the store stalled. -/
theorem drop_eq_shutdown_appending : ∃ (start s : State Nat) (states answers : List (State Nat)),
    State.spawn? ⟨4, 2, 100⟩ = some start ∧
    start.run? [.slowAppends 5, .stall, .store [7, 8, 9]] = some states ∧
    (start :: states).getLast? = some s ∧ (s.phase, s.queue) = (.appending 7 ⟨[], 0⟩ 5, [8, 9]) ∧
    start.run? ([.slowAppends 5, .stall, .store [7, 8, 9]] ++
      .shutdown :: [.advance 20, .resume, .advance 20]) =
        some (states ++ answers.map State.asSignalled) ∧
    (states ++ answers).map (·.store.sent) =
      [[], [], [], [], [], [[7, 8]], [[7, 8], [9]]] := by
  have heval : ((State.spawn? ⟨4, 2, 100⟩).bind fun start =>
      (start.run? [.slowAppends 5, .stall, .store [7, 8, 9]]).bind fun states =>
        states[2]?.map fun s => ((s.phase, s.queue), s.held, s.waiting.length, states.length,
          (start.run? ([.slowAppends 5, .stall, .store [7, 8, 9]] ++
            .drop :: [.advance 20, .resume, .advance 20])).map (·.map (·.store.sent)))) =
      some ((.appending 7 ⟨[], 0⟩ 5, [8, 9]), true, 0, 3,
        some [[], [], [], [], [], [[7, 8]], [[7, 8], [9]]]) := by cbv
  obtain ⟨start, states, s, hs, hrun, hi, heval⟩ := State.exists_answer_of_spawn? heval
  obtain ⟨hphase, heval⟩ := Prod.mk.inj heval
  obtain ⟨hheld, heval⟩ := Prod.mk.inj heval
  obtain ⟨hwait, heval⟩ := Prod.mk.inj heval
  obtain ⟨hlength, hlater⟩ := Prod.mk.inj heval
  obtain ⟨all, hall, hsent⟩ := Option.map_eq_some_iff.mp hlater
  have hlast : (start :: states).getLast? = some s := by
    rw [List.getLast?_eq_getElem?, List.length_cons, hlength]
    exact hi
  obtain ⟨-, h⟩ := drop_eq_shutdown hs
  obtain ⟨answers, hdrop, hshutdown⟩ := h _ states s hrun hlast hheld
    (List.length_eq_zero_iff.mp hwait) [.advance 20, .resume, .advance 20]
    (by simp [Step.needsWriter])
  rw [hall, Option.some.injEq] at hdrop
  exact ⟨start, s, states, answers, hs, hrun, hlast, hphase, hshutdown, hdrop ▸ hsent⟩

end Pageviews.Writer
