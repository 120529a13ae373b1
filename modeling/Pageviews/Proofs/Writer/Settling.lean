import Pageviews.Proofs.Writer.Frame

/-! How long loop and producers go on by themselves. Main statement: every move lowers a number that
no passing of time raises, so that the writer comes to rest, whatever its policy and in whatever
order loop and producers take turns. -/
namespace Pageviews.Writer

variable {α : Type}

namespace State

/-- The producers that have not ended. -/
def pool (s : State α) : Nat := s.ready.length + s.waiting.length

/-- How often all waiting producers can still be woken: when the queue is closed, and at the end. -/
def wakings (s : State α) : Nat := if s.hasEnded then 0 else 1 + drainWork s.draining

/-- A bound on the moves of loop and producers until nothing more can happen. What each side does to
the other is paid for: a row that is taken wakes one producer, a waking of all counts each once. -/
def movesLeft (s : State α) : Nat := 2 * s.work + s.ready.length + s.wakings * s.pool

theorem pool_eq_length_roster (s : State α) : s.pool = s.roster.length := by simp [pool, roster]

theorem movesLeft_eq (s : State α) :
    s.movesLeft = 2 * s.loopWork + 42 * total s.rowCounts + 2 * s.pool + s.ready.length +
      s.wakings * s.pool := by
  have hlength : s.rowCounts.length = s.pool := by simp [pool, rowCounts]
  rw [movesLeft, work, hlength]
  omega

theorem one_le_wakings {s : State α} (h : s.hasEnded = false) : 1 ≤ s.wakings := by
  simp [wakings, h]

theorem wakings_le_two (s : State α) : s.wakings ≤ 2 := by
  have := drainWork_le_one s.draining
  unfold wakings
  split <;> omega

theorem ready_grantSlot_le (s : State α) : s.grantSlot.ready.length ≤ s.ready.length + 1 := by
  unfold grantSlot
  split <;> simp

end State

variable {s t : State α} {row : α} {current : Option (Batch α)} {taken : List (Call α)}
  {refused : Option (Call α)} {event : Event α} {events : List (Event α)}

theorem Delivery.wakes (h : Delivery s row current taken refused t) :
    t.wakings = 0 ∨ t.ready = s.ready ∧ t.hasEnded = false ∧ t.draining = s.draining := by
  cases h with
  | notOpened | notFirst | notNext => exact .inl rfl
  | first | next | tooOld => exact .inr ⟨rfl, rfl, rfl⟩

/-- A move wakes all producers, which it cannot do again, or at most one. -/
theorem LoopMove.wakes (h : LoopMove s taken refused t) :
    t.wakings < s.wakings ∨ t.wakings = s.wakings ∧ t.ready.length ≤ s.ready.length + 1 := by
  have hended := h.hasEnded_eq_false
  have hone := State.one_le_wakings hended
  have hkeep {u : State α} (hu : u.hasEnded = false) (hd : u.draining = s.draining) :
      u.wakings = s.wakings := by
    simp [State.wakings, hu, hended, hd]
  have hdelivery {u : State α} {row : α} {current : Option (Batch α)} {taken : List (Call α)}
      (h : Delivery u row current taken refused t) (hd : u.draining = s.draining)
      (hr : u.ready.length ≤ s.ready.length + 1) :
      t.wakings < s.wakings ∨ t.wakings = s.wakings ∧ t.ready.length ≤ s.ready.length + 1 := by
    rcases h.wakes with hw | ⟨hready, hnot, hdraining⟩
    · exact .inl (by omega)
    · exact .inr ⟨hkeep hnot (hdraining.trans hd), hready ▸ hr⟩
  cases h with
  | beginDrain hp hd =>
    left
    have hafter : s.beginDrain.wakings = 1 := by
      simp [State.wakings, State.beginDrain, State.wakeAll, State.hasEnded, hp, drainWork]
    have hbefore : s.wakings = 2 := by simp [State.wakings, hended, hd, drainWork]
    omega
  | take _ _ _ _ _ _ hdel =>
    exact hdelivery hdel (State.draining_grantSlot _) (State.ready_grantSlot_le _)
  | takeLate _ _ _ hdel | sentBefore _ _ _ hdel => exact hdelivery hdel rfl (Nat.le_succ _)
  | finish | notSent | sentLast => exact .inl hone
  | expire | flush | fill | outlive | join | sent => exact .inr ⟨hkeep rfl rfl, Nat.le_succ _⟩

theorem LoopMove.movesLeft_lt (h : LoopMove s taken refused t) : t.movesLeft < s.movesLeft := by
  have hwork := State.work_move (State.move_of_loopMove h)
  have hpool : t.pool = s.pool := by
    rw [State.pool_eq_length_roster, State.pool_eq_length_roster, h.keeps.roster]
  have hready : t.ready.length ≤ t.pool := Nat.le_add_right _ _
  unfold State.movesLeft
  rcases h.wakes with hw | ⟨hw, hr⟩
  · -- the waking is paid for by the one that is left less
    have hpaid : (t.wakings + 1) * t.pool ≤ s.wakings * s.pool := by
      rw [hpool]
      exact Nat.mul_le_mul_right _ hw
    rw [Nat.succ_mul] at hpaid
    omega
  · rw [hw, hpool]
    omega

/-- A producer leaves the others alone, or it leaves a row to the loop. -/
theorem Production.counts {producer : Producer α} {others : List (Producer α)}
    (hr : s.ready = producer :: others) (h : Production s producer others t) :
    t.wakings = s.wakings ∧ t.pool ≤ s.pool ∧
      (t.loopWork = s.loopWork ∧ total t.rowCounts ≤ total s.rowCounts ∧
        t.ready.length < s.ready.length ∨
      t.loopWork = s.loopWork + 20 ∧ total t.rowCounts < total s.rowCounts ∧
        t.ready.length = s.ready.length) := by
  have hcounts : total s.rowCounts =
      producer.rows.length + total ((others ++ s.waiting).map (·.rows.length)) := by
    rw [State.rowCounts, hr]
    rfl
  have hready : s.ready.length = others.length + 1 := by rw [hr, List.length_cons]
  unfold State.pool
  rw [hcounts, hready]
  cases h with
  | done | refused =>
    refine ⟨rfl, ?_, .inl ⟨rfl, Nat.le_add_left _ _, Nat.lt_succ_self _⟩⟩
    exact Nat.add_le_add_right (Nat.le_succ _) _
  | @accepted row rows hrows =>
    refine ⟨rfl, Nat.le_refl _, .inr ⟨?_, ?_, rfl⟩⟩
    · simp only [State.loopWork, State.accept, List.length_append, List.length_singleton]
      omega
    · rw [hrows]
      exact Nat.add_lt_add_right (Nat.lt_succ_self rows.length) _
  | waits =>
    refine ⟨rfl, ?_, .inl ⟨rfl, ?_, Nat.lt_succ_self _⟩⟩
    · simp only [List.length_append, List.length_singleton]
      omega
    · simp only [State.rowCounts, List.map_append, total_append, List.map_cons, List.map_nil, total]
      omega

theorem Production.movesLeft_lt {producer : Producer α} {others : List (Producer α)}
    (hr : s.ready = producer :: others) (h : Production s producer others t) :
    t.movesLeft < s.movesLeft := by
  obtain ⟨hwakings, hpool, hcounts⟩ := h.counts hr
  have hwoken := Nat.mul_le_mul_left s.wakings hpool
  rw [State.movesLeft_eq, State.movesLeft_eq, hwakings]
  omega

def Step.cost : Step α → Nat
  | store rows => 42 * rows.length + 5
  | _ => 0

theorem State.movesLeft_perform {step : Step α} (ha : step.isAdvance = false) :
    (s.perform step).movesLeft ≤ s.movesLeft + step.cost := by
  cases step with
  | store rows =>
    have hcounts : total (s.spawnProducer rows).rowCounts = total s.rowCounts + rows.length := by
      simp only [rowCounts, spawnProducer, List.map_append, total_append, List.map_cons,
        List.map_nil, total]
      omega
    have hready : (s.spawnProducer rows).ready.length = s.ready.length + 1 := by simp [spawnProducer]
    have hpool : (s.spawnProducer rows).pool = s.pool + 1 := by
      rw [pool, hready, Nat.add_right_comm]
      rfl
    have hwakings : (s.spawnProducer rows).wakings = s.wakings := rfl
    have hloop : (s.spawnProducer rows).loopWork = s.loopWork := rfl
    have htwo := s.wakings_le_two
    rw [perform, movesLeft_eq, movesLeft_eq, hcounts, hready, hpool, hwakings, hloop,
      Nat.mul_succ s.wakings, Step.cost]
    omega
  | advance => cases ha
  | _ => exact Nat.le_refl _

def totalCost (steps : List (Step α)) : Nat := total (steps.map Step.cost)

theorem totalCost_append (steps more : List (Step α)) :
    totalCost (steps ++ more) = totalCost steps + totalCost more := by
  rw [totalCost, List.map_append, total_append]
  rfl

theorem Transition.moveCount_le (h : Transition s event t) :
    moveCount [event] + t.movesLeft ≤ s.movesLeft + totalCost ([event].filterMap Event.step?) := by
  cases h with
  | loop h => exact Nat.add_comm _ _ ▸ h.movesLeft_lt
  | produce hr h => exact Nat.add_comm _ _ ▸ h.movesLeft_lt hr
  | clock => exact Nat.le_of_eq (Nat.zero_add _)
  | @step step ha =>
    have hstep := s.movesLeft_perform ha
    show 0 + (s.perform step).movesLeft ≤ s.movesLeft + (step.cost + 0)
    omega

/-- All the moves of a run are paid for by what was left at its start and by its steps; time costs
nothing. -/
theorem Path.moveCount_le (h : Path s events t) :
    moveCount events + t.movesLeft ≤ s.movesLeft + totalCost (events.filterMap Event.step?) := by
  induction h with
  | refl => exact Nat.le_of_eq (Nat.add_comm _ _)
  | @snoc t u events event h ht ih =>
    have hlast := ht.moveCount_le
    rw [moveCount_append, List.filterMap_append, totalCost_append]
    omega

/-- The loop finds that the open batch has reached its age, with nobody asking it to end. -/
structure Fires (s : State α) (batch : Batch α) (t : State α) : Prop where
  phase : s.phase = .idle (some batch)
  draining : s.draining = false
  signalled : s.signalled = false
  abandoned : s.isAbandoned = false
  expired : s.isExpired batch = true
  next : t = s.startSend batch .age .wait

theorem Fires.transition {batch : Batch α} (h : Fires s batch t) :
    Transition s (.loop [] none) t := by
  rw [h.next]
  exact .loop (.expire h.phase h.draining h.signalled h.abandoned h.expired)

theorem LoopMove.of_sending {batch : Batch α} {trigger : Trigger} {age : Nat} {next : Next α}
    (h : LoopMove s taken refused t) (hs : s.phase = .sending batch trigger age next) :
    t.hasEnded = true ∨ batch.rows ∈ taken.filterMap Call.sent? := by
  cases h with
  | notSent => exact .inl rfl
  | sent hp | sentBefore hp | sentLast hp =>
    rw [hs] at hp
    cases hp
    exact .inr List.mem_cons_self
  | beginDrain hp | expire hp | take hp | takeLate hp | flush hp | finish hp | fill hp | outlive hp
    | join hp =>
    rw [hs] at hp
    cases hp

theorem Transition.phase_eq (h : Transition s event t)
    (he : ∀ taken refused, event ≠ .loop taken refused) : t.phase = s.phase := by
  cases h with
  | loop => exact absurd rfl (he _ _)
  | produce _ hp => cases hp <;> rfl
  | clock => rfl
  | @step step ha =>
    cases step with
    | advance => cases ha
    | _ => rfl

/-- A batch that is being sent stays so until it is in the store or the loop has ended. -/
theorem Path.sending_or {batch : Batch α} {trigger : Trigger} {age : Nat} {next : Next α}
    (h : Path s events t) (hs : s.phase = .sending batch trigger age next) :
    t.phase = .sending batch trigger age next ∨ t.hasEnded = true ∨
      batch.rows ∈ events.flatMap Event.sent := by
  induction h with
  | refl => exact .inl hs
  | @snoc t u events event h ht ih =>
    rw [List.flatMap_append, List.mem_append, List.flatMap_singleton]
    by_cases hloop : ∃ taken refused, event = .loop taken refused
    · obtain ⟨taken, refused, rfl⟩ := hloop
      cases ht with
      | loop hm =>
        rcases ih with hsending | hended | hsent
        · exact .inr ((hm.of_sending hsending).imp_right .inr)
        · rw [hm.hasEnded_eq_false] at hended
          cases hended
        · exact .inr (.inr (.inl hsent))
    · have hphase : u.phase = t.phase := ht.phase_eq fun taken refused he =>
        hloop ⟨taken, refused, he⟩
      have hended : u.hasEnded = t.hasEnded := by rw [State.hasEnded, State.hasEnded, hphase]
      rw [hphase, hended]
      exact ih.imp_right (Or.imp_right .inl)

/-- Between two deadlines the first batch is sent. -/
theorem Path.sent_of_fires {batch later : Batch α} {u v : State α} (h : Fires s batch t)
    (hp : Path t events u) (hu : Fires u later v) : batch.rows ∈ events.flatMap Event.sent := by
  have hphase : t.phase = .sending batch .age (s.now - batch.openedAt) .wait := by
    rw [h.next]
    rfl
  rcases hp.sending_or hphase with hsending | hended | hsent
  · rw [hu.phase] at hsending
    cases hsending
  · simp [State.hasEnded, hu.phase] at hended
  · exact hsent

/-- At rest no move can be made, and only there. -/
theorem State.isAtRest_iff :
    s.IsAtRest ↔ ∀ event t, event.isMove = true → ¬ Transition s event t := by
  constructor
  · rintro ⟨hmove, hready⟩ event t he ht
    cases ht with
    | loop hm => exact move_eq_none_iff.mp hmove ⟨_, _, _, hm⟩
    | produce hr =>
      rw [hready] at hr
      cases hr
    | clock | step => cases he
  · intro h
    constructor
    · exact move_eq_none_iff.mpr fun ⟨_, _, _, hm⟩ => h _ _ rfl (.loop hm)
    · cases hr : s.ready with
      | nil => rfl
      | cons producer others => exact absurd (.produce hr (production ..)) (h .producer _ rfl)

/-- What a step brings about: moves that are paid for, stops of the clock between them, and rest. -/
structure Settles (s : State α) (step : Step α) (t : State α) : Prop where
  isAtRest : t.IsAtRest
  run : ∃ events, Path s events t ∧ events.filterMap Event.step? = [step].filter (!·.isAdvance) ∧
    moveCount events + t.movesLeft ≤ s.movesLeft + step.cost ∧
    events.length ≤ 2 * moveCount events + 1

theorem State.exists_path_perform {step : Step α} (hr : s.IsAtRest)
    (hw : step.needsWriter = true → s.held = true) :
    ∃ events, Path s events (s.perform step) ∧
      events.filterMap Event.step? = [step].filter (!·.isAdvance) ∧
      events.length ≤ 2 * moveCount events + 1 := by
  cases ha : step.isAdvance with
  | false => exact ⟨_, .single (.step ha hw), by simp [Event.step?, ha], Nat.le_refl 1⟩
  | true =>
    cases step with
    | advance time => exact exists_path_advanceTo hr (Nat.le_add_right s.now time)
    | _ => cases ha

theorem State.exists_settles {step : Step α} (hr : s.IsAtRest)
    (hw : step.needsWriter = true → s.held = true) :
    ∃ t, s.step? step = some t ∧ Settles s step t := by
  have hstep : s.step? step = some (s.take step) := by
    refine if_neg fun h => ?_
    simp only [Bool.and_eq_true, Bool.not_eq_true'] at h
    rw [hw h.1] at h
    cases h.2
  obtain ⟨events, hp, he, hlength⟩ := exists_path_perform hr hw
  obtain ⟨moves, hm, hmoves⟩ := moves_settle (s.perform step)
  have hpath : Path s (events ++ moves) (s.take step) := hp.trans hm
  have hsteps : (events ++ moves).filterMap Event.step? = [step].filter (!·.isAdvance) := by
    rw [List.filterMap_append, filterMap_step?_eq_nil hmoves, List.append_nil, he]
  have hcost : totalCost ([step].filter (!·.isAdvance)) ≤ step.cost := by
    cases step <;> exact Nat.le_refl _
  have hle := hpath.moveCount_le
  rw [hsteps] at hle
  refine ⟨_, hstep, isAtRest_settle _, _, hpath, hsteps, by omega, ?_⟩
  rw [List.length_append, moveCount_append, length_eq_moveCount hmoves]
  omega

/-- However loop and producers take turns, they come to rest, whatever is done to the writer. -/
structure ComesToRest (s : State α) : Prop where
  /-- Moves come to an end, in whatever order. -/
  bounded : ∀ events t, Path s events t → (∀ event ∈ events, event.isMove = true) →
    events.length + t.movesLeft ≤ s.movesLeft
  /-- No state comes again by moves, also not when time passes between them. -/
  acyclic : ∀ events, Path s events s → events.filterMap Event.step? = [] → moveCount events = 0
  /-- They lead to rest, which is where no more moves can be made. -/
  settles : s.Moves s.settle ∧ s.settle.IsAtRest
  atRest_iff : s.IsAtRest ↔ ∀ event t, event.isMove = true → ¬ Transition s event t
  /-- A deadline lets the loop go on, and comes again only when its batch is in the store. -/
  deadlines : ∀ batch t, Fires s batch t → Transition s (.loop [] none) t ∧
    ∀ events u later v, Path t events u → Fires u later v → batch.rows ∈ events.flatMap Event.sent
  steps : s.IsAtRest → ∀ step, (step.needsWriter = true → s.held = true) →
    ∃ t, s.step? step = some t ∧ Settles s step t

theorem State.comesToRest (s : State α) : ComesToRest s where
  bounded events t h he := by
    have hle := h.moveCount_le
    rw [State.filterMap_step?_eq_nil he, ← State.length_eq_moveCount he] at hle
    exact hle
  acyclic events h he := by
    have hle := h.moveCount_le
    rw [he] at hle
    have hnothing : totalCost ([] : List (Step α)) = 0 := rfl
    omega
  settles := ⟨moves_settle s, isAtRest_settle s⟩
  atRest_iff := isAtRest_iff
  deadlines _ _ h := ⟨h.transition, fun _ _ _ _ hp hu => hp.sent_of_fires h hu⟩
  steps hr _ hw := exists_settles hr hw

/-- From every state that a run of the writer reaches, loop and producers come to rest by themselves,
whatever the policy. In all they make no more moves than the producers and rows of the run pay for. -/
theorem comes_to_rest {policy : Policy} {start : State α} (hs : State.spawn? policy = some start)
    {before : List (Event α)} (hp : Path start before s) :
    moveCount before + s.movesLeft ≤ 4 + totalCost (before.filterMap Event.step?) ∧
      ComesToRest s := by
  obtain rfl := State.eq_fresh hs
  exact ⟨hp.moveCount_le, s.comesToRest⟩

/-- A writer with room for one row and batches that are full and too old at once. Its store takes
none until it is let to: then a producer's three rows are in it one by one. -/
theorem comes_to_rest_resumed : ∃ (start s t : State Nat) (before : List (Event Nat)),
    State.spawn? ⟨0, 0, 0⟩ = some start ∧ Path start before s ∧ s.waiting.length = 1 ∧
    moveCount before + s.movesLeft ≤ 135 ∧ s.step? .resume = some t ∧ Settles s .resume t ∧
    t.store.sent = [[7], [8], [9]] := by
  have heval : ((State.spawn? ⟨0, 0, 0⟩).bind fun start =>
      (start.run? [.slowAppends 0, .stall, .store [7, 8, 9]]).bind fun states =>
        states[2]?.map fun s => (s.waiting.length, (s.step? .resume).map (·.store.sent))) =
      some (1, some [[7], [8], [9]]) := by cbv
  obtain ⟨start, states, s, hs, hrun, hi, heval⟩ := State.exists_answer_of_spawn? heval
  obtain ⟨hwaiting, hlater⟩ := Prod.mk.inj heval
  obtain ⟨t, ht, hsent⟩ := Option.map_eq_some_iff.mp hlater
  obtain ⟨hr, before, hp, hsteps⟩ :=
    State.exists_path_of_run? (State.isAtRest_of_spawn? hs) hrun hi
  obtain ⟨hmoves, hrest⟩ := comes_to_rest hs hp
  have hallowed : (Step.resume : Step Nat).needsWriter = true → s.held = true := by
    intro h
    cases h
  obtain ⟨u, hu, hsettles⟩ := hrest.steps hr .resume hallowed
  have hut : u = t := Option.some.inj (hu.symm.trans ht)
  rw [hsteps] at hmoves
  exact ⟨start, s, t, before, hs, hp, hwaiting, hmoves, ht, hut ▸ hsettles, hsent⟩

end Pageviews.Writer
