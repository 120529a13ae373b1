import Pageviews.Proofs.Writer.FailStop

/-! What a shutdown brings about. Main statement: the queue is sealed, and the writer ends within
the time that the appends of what can be queued take. -/
namespace Pageviews.Writer

variable {α : Type}

/-- A step that lets batches through the store, and makes no append take longer than a time. -/
def Step.Mild (longest : Nat) : Step α → Prop
  | stall => False
  | slowAppends time => time ≤ longest
  | _ => True

namespace State

def appendLeft (s : State α) : Nat :=
  match s.phase with
  | .appending _ _ until_ => until_ - s.now
  | _ => 0

/-- A bound on the rows that the loop may still take once a shutdown was asked for. -/
def takeable (s : State α) : Nat := if s.draining then s.queue.length else s.policy.slots

/-- The appends that the loop still has to make are done by a time if each takes the longest. -/
def EndsBy (s : State α) (longest deadline : Nat) : Prop :=
  match s.phase with
  | .appending _ _ until_ => until_ + s.takeable * longest ≤ deadline
  | .sending _ _ _ (.append _) => s.now + (s.takeable + 1) * longest ≤ deadline
  | .ended _ => True
  | _ => s.now + s.takeable * longest ≤ deadline

end State

/-- The writer is asked to end, and nothing holds it up beyond a time. -/
structure Ending (longest deadline : Nat) (s : State α) : Prop where
  signalled : s.signalled = true
  stalled : s.store.stalled = false
  delay : s.store.delay ≤ longest
  ends : s.EndsBy longest deadline

variable {longest deadline : Nat} {s t : State α} {row : α} {current : Option (Batch α)}
  {taken : List (Call α)} {refused : Option (Call α)}

theorem Delivery.endsBy (h : Delivery s row current taken refused t)
    (hd : s.store.delay ≤ longest) (hs : s.now + (s.takeable + 1) * longest ≤ deadline) :
    t.EndsBy longest deadline := by
  have hstart : s.now + s.store.delay + s.takeable * longest ≤ deadline := by
    rw [Nat.add_one_mul] at hs
    omega
  cases h with
  | notOpened | notFirst | notNext => exact trivial
  | first | next => exact hstart
  | tooOld => exact hs

namespace Ending

theorem endsBy_loopMove (h : Ending longest deadline s) (hslots : Slots s) (ho : s.InOrder)
    (hm : LoopMove s taken refused t) : t.EndsBy longest deadline := by
  have he := h.ends
  unfold State.EndsBy at he
  cases hm with
  | beginDrain hp hd =>
    -- from now on the length of the queue counts, which is at most the slots
    have hb : s.queue.length ≤ s.policy.slots := Nat.le_of_add_right_le hslots.bound
    have hmul := Nat.mul_le_mul_right longest hb
    simp only [hp, State.takeable, hd, Bool.false_eq_true, if_false] at he
    simp only [State.EndsBy, State.beginDrain, State.wakeAll, State.takeable, hp, if_true]
    omega
  | expire _ _ hs | take _ _ hs =>
    rw [h.signalled] at hs
    cases hs
  | takeLate hp hd hq hdel =>
    apply hdel.endsBy h.delay
    simp only [hp, State.takeable, hd, if_true, hq, List.length_cons] at he
    simpa only [State.takeable, hd, if_true] using he
  | flush hp =>
    simp only [hp] at he
    exact he
  | finish | notSent | sentLast => exact trivial
  | fill hp | outlive hp | join hp =>
    -- the append is never late, so now is when it was due
    unfold State.InOrder at ho
    simp only [hp] at he ho
    have hnow : s.now + s.takeable * longest ≤ deadline := by omega
    exact hnow
  | sent hp =>
    simp only [hp] at he
    exact he
  | sentBefore hp _ _ hdel =>
    simp only [hp] at he
    exact hdel.endsBy h.delay he

theorem loopMove (h : Ending longest deadline s) (hslots : Slots s) (ho : s.InOrder)
    (hm : LoopMove s taken refused t) : Ending longest deadline t := by
  have hk := hm.keeps
  refine ⟨hk.signalled.trans h.signalled, hk.stalled.trans h.stalled, ?_, ?_⟩
  · rw [hk.delay]
    exact h.delay
  · exact h.endsBy_loopMove hslots ho hm

/-- A writer that has come to rest waits for an append, if it has not ended. -/
theorem now_lt_deadline (h : Ending longest deadline s) (hm : s.move = none)
    (he : s.hasEnded = false) : s.now < deadline := by
  have hends := h.ends
  rw [State.move_eq_none_iff] at hm
  cases hp : s.phase with
  | idle => exact absurd (State.canMove_of_signalled hp (.inl h.signalled)) hm
  | appending row batch until_ =>
    have hn : ¬ until_ ≤ s.now := fun hn => hm (State.canMove_of_appending hp hn)
    simp only [State.EndsBy, hp] at hends
    omega
  | sending => exact absurd (State.canMove_of_sending hp h.stalled) hm
  | ended => simp [State.hasEnded, hp] at he

theorem production {producer : Producer α} {others : List (Producer α)}
    (h : Ending longest deadline s) (hp : Production s producer others t) :
    Ending longest deadline t := by
  have he := h.ends
  cases hp with
  | done | refused | waits => exact ⟨h.signalled, h.stalled, h.delay, he⟩
  | accepted _ hc =>
    -- only a queue that has not been closed grows, and then its length does not count
    have hd : s.draining = false := (Bool.or_eq_false_iff.mp hc).1
    refine ⟨h.signalled, h.stalled, h.delay, ?_⟩
    simp only [State.EndsBy, State.takeable, State.accept, hd] at he ⊢
    exact he

theorem clock (h : Ending longest deadline s) (hm : s.move = none) (time : Nat) :
    Ending longest deadline { s with now := time } := by
  refine ⟨h.signalled, h.stalled, h.delay, ?_⟩
  have he := h.ends
  rw [State.move_eq_none_iff] at hm
  unfold State.EndsBy at *
  cases hp : s.phase with
  | idle => exact absurd (State.canMove_of_signalled hp (.inl h.signalled)) hm
  | appending =>
    rw [hp] at he
    exact he
  | sending => exact absurd (State.canMove_of_sending hp h.stalled) hm
  | ended => exact trivial

theorem step (h : Ending longest deadline s) {step : Step α} (ha : step.isAdvance = false)
    (hm : step.Mild longest) : Ending longest deadline (s.perform step) := by
  cases step with
  | advance => cases ha
  | stall => cases hm
  | slowAppends => exact ⟨h.signalled, h.stalled, hm, h.ends⟩
  | shutdown => exact ⟨rfl, h.stalled, h.delay, h.ends⟩
  | resume => exact ⟨h.signalled, rfl, h.delay, h.ends⟩
  | _ => exact ⟨h.signalled, h.stalled, h.delay, h.ends⟩

/-- A shutdown leaves the loop time for the append that is going on and those of a full queue. -/
theorem of_shutdown (hslots : Slots s) (hstalled : s.store.stalled = false)
    (hleft : s.appendLeft ≤ longest) (hdelay : s.store.delay ≤ longest) :
    Ending longest (s.now + (s.policy.slots + 1) * longest) (s.perform .shutdown) := by
  refine ⟨rfl, hstalled, hdelay, ?_⟩
  have hb : s.takeable ≤ s.policy.slots := by
    unfold State.takeable
    split
    · exact Nat.le_of_add_right_le hslots.bound
    · exact Nat.le_refl _
  have hmul := Nat.mul_le_mul_right longest hb
  have hmul' := Nat.mul_le_mul_right longest (Nat.add_le_add_right hb 1)
  have hsucc := Nat.add_one_mul s.policy.slots longest
  show s.EndsBy longest _
  unfold State.appendLeft at hleft
  unfold State.EndsBy
  split
  · next hp =>
    simp only [hp] at hleft
    omega
  · omega
  · exact trivial
  · omega

end Ending

/-- As long as the steps are mild, the writer goes on to end in time. -/
theorem Path.ending {events : List (Event α)} (h : Path s events t)
    (hm : ∀ step ∈ events.filterMap Event.step?, step.Mild longest) (hslots : Slots s)
    (ho : s.InOrder) (hs : Ending longest deadline s) : Ending longest deadline t := by
  induction h with
  | refl => exact hs
  | @snoc t u events event h ht ih =>
    have he : Ending longest deadline t := by
      refine ih fun step hstep => hm step ?_
      rw [List.filterMap_append]
      exact List.mem_append_left _ hstep
    cases ht with
    | loop hmove => exact he.loopMove (hslots.path h) (h.invariant (fun ht => ht.inOrder) ho) hmove
    | produce _ hp => exact he.production hp
    | clock hr => exact he.clock hr.1 _
    | step ha => exact he.step ha (hm _ (by simp [Event.step?]))

/-- The writer has ended, and has written everything unless the store refused a call. -/
structure Completed (events : List (Event α)) (t : State α) : Prop where
  ended : t.hasEnded = true
  written : (∀ taken call, .loop taken (some call) ∉ events) →
    t.phase = .ended none ∧ t.queue = [] ∧ t.store.sent.flatten = t.acceptedRows

/-- A writer that has ended without a failure has written everything. -/
theorem Path.completed {events : List (Event α)} (h : Path s events t) (ho : s.InOrder)
    (hl : s.Ledger) (hs : s.hasEnded = false) (ht : t.hasEnded = true) : Completed events t := by
  refine ⟨ht, fun hnone => ?_⟩
  have hphase : t.phase = .ended none := by
    refine State.phase_eq_ended_none ht fun failure hp => ?_
    obtain ⟨_, _, taken, call, _, _, -, -, -, hevents, -⟩ := h.exists_refused hs hp
    exact absurd (by rw [hevents]; simp) (hnone taken call)
  have hot : t.InOrder := h.invariant (fun ht => ht.inOrder) ho
  have hlt : t.Ledger := h.ledger_of ho hl
  unfold State.InOrder at hot
  unfold State.Ledger at hlt
  rw [hphase] at hot hlt
  exact ⟨hphase, hot.1, hlt⟩

/-- A shutdown seals the queue, whatever else is done, and the writer ends within the time that the
append going on and those of a full queue take. -/
theorem shutdown_completes {policy : Policy} {start s : State α} {before : List (Event α)}
    (hs : State.spawn? policy = some start) (hp : Path start before s)
    (he : s.hasEnded = false) :
    (∀ during u after v, Path (s.perform .shutdown) during u → u.draining = true →
      Path u after v → Sealed u v) ∧
    (∀ during u taken refused v after w, Path (s.perform .shutdown) during u →
      LoopMove u taken refused v → v.draining = true → Path v after w → Sealed u w) ∧
    ∀ longest, s.store.stalled = false → s.appendLeft ≤ longest → s.store.delay ≤ longest →
      (∀ events u, Path (s.perform .shutdown) events u → u.IsAtRest →
        (∀ step ∈ events.filterMap Event.step?, step.Mild longest) →
        s.now + (policy.slots + 1) * longest ≤ u.now → Completed events u) ∧
      ∀ steps states i u, s.run? (.shutdown :: steps) = some states → states[i]? = some u →
        (∀ step ∈ steps.take i, step.Mild longest) →
        s.now + (policy.slots + 1) * longest ≤ u.now →
        ∃ events, Path (s.perform .shutdown) events u ∧
          events.filterMap Event.step? = (steps.take i).filter (!·.isAdvance) ∧
          Completed events u := by
  have hslotsS := (Slots.of_spawn? hs).path hp
  have horderS := hp.inOrder hs
  have hledgerS := hp.ledger hs
  have hslots : Slots (s.perform .shutdown) := hslotsS.of_eq rfl rfl rfl rfl id
  have hpolicy := hp.policy_eq hs
  refine ⟨?_, ?_, ?_⟩
  · intro during u after v hu hd hv
    have hslotsU := hslots.path hu
    have hc : u.isClosed = true := by rw [State.isClosed, hd, Bool.true_or]
    exact hv.sealed hslotsU hslotsU rfl rfl hc
  · intro during u taken refused v after w hu hm hd hw
    have hslotsU := hslots.path hu
    have hc : v.isClosed = true := by rw [State.isClosed, hd, Bool.true_or]
    exact hw.sealed hslotsU (hslotsU.loopMove hm) hm.keeps.roster hm.keeps.accepted hc
  intro longest hstalled hleft hdelay
  have hstart := Ending.of_shutdown hslotsS hstalled hleft hdelay
  have hcompleted : ∀ events u, Path (s.perform .shutdown) events u → u.IsAtRest →
      (∀ step ∈ events.filterMap Event.step?, step.Mild longest) →
      s.now + (policy.slots + 1) * longest ≤ u.now → Completed events u := by
    intro events u hu hr hm hn
    have hending := hu.ending hm hslots horderS hstart
    apply hu.completed horderS hledgerS he
    by_contra hrunning
    have hlt := hending.now_lt_deadline hr.1 (by simpa using hrunning)
    rw [hpolicy] at hlt
    omega
  refine ⟨hcompleted, ?_⟩
  intro steps states i u hrun hi hm hn
  obtain ⟨hr, events, hu, hsteps⟩ := State.exists_path_of_run?_cons hrun hi
  refine ⟨events, hu, hsteps, hcompleted events u hu hr ?_ hn⟩
  rw [hsteps]
  exact fun step hstep => hm step (List.mem_of_mem_filter hstep)

/-- A shutdown during a slow append, with a row in the queue, ends after the two appends. -/
theorem shutdown_completes_slowly : ∃ (start s u : State Nat) (events : List (Event Nat)),
    State.spawn? ⟨1, 2, 100⟩ = some start ∧ Path (s.perform .shutdown) events u ∧
    s.now + 2 * 5 = u.now ∧ Completed events u ∧ u.store.sent = [[7, 8]] := by
  have heval : ((State.spawn? ⟨1, 2, 100⟩).bind fun start =>
      (start.run? [.slowAppends 5, .store [7, 8]]).bind fun states => states[1]?.map fun s =>
        ((s.hasEnded, s.store.stalled, s.appendLeft, s.store.delay, s.now),
          (s.run? [.shutdown, .advance 10]).bind fun answers =>
            answers[1]?.map fun u => (u.now, u.store.sent))) =
      some ((false, false, 5, 5, 0), some (10, [[7, 8]])) := by cbv
  obtain ⟨start, states, s, hs, hrun, hi, heval⟩ := State.exists_answer_of_spawn? heval
  simp only [Prod.mk.injEq] at heval
  obtain ⟨⟨hended, hstalled, hleft, hdelay, hnow⟩, hlater⟩ := heval
  obtain ⟨answers, u, hrun', hi', hlater⟩ := State.exists_answer_of_run? hlater
  obtain ⟨hnow', hsent⟩ := Prod.mk.inj hlater
  obtain ⟨-, before, hp, -⟩ := State.exists_path_of_run? (State.isAtRest_of_spawn? hs) hrun hi
  obtain ⟨-, -, h⟩ := shutdown_completes hs hp hended
  obtain ⟨-, hcompleted⟩ := h 5 hstalled (Nat.le_of_eq hleft) (Nat.le_of_eq hdelay)
  obtain ⟨events, hu, -, hc⟩ := hcompleted _ _ 1 u hrun' hi' (by simp [Step.Mild])
    (by rw [hnow, hnow']; decide)
  exact ⟨start, s, u, events, hs, hu, by rw [hnow, hnow'], hc, hsent⟩

end Pageviews.Writer
