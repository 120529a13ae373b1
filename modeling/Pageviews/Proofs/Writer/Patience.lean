import Pageviews.Proofs.Writer.Departure
import Pageviews.Proofs.Writer.Leaving

/-! A writer that nobody asks to end. Main statement: it refuses nobody, and once nobody holds it
any more it ends when everybody is done, with everything in the store. -/
namespace Pageviews.Writer

variable {α : Type} {s t : State α} {policy : Policy} {taken : List (Call α)}

/-- Nobody has been refused, and the queue is open as long as somebody is left. -/
structure Patient (s : State α) : Prop where
  signalled : s.signalled = false
  draining : s.draining = true → s.isAbandoned = true
  complete : ∀ e ∈ s.ended, e.complete = true
  unfailed : ∀ failure, s.phase ≠ .ended (some failure)

namespace Patient

theorem of_spawn? (h : State.spawn? policy = some s) : Patient s := by
  obtain rfl := State.eq_fresh h
  exact ⟨rfl, nofun, nofun, nofun⟩

theorem isAbandoned (h : Patient s) (ho : s.InOrder) (hc : s.isClosed = true) :
    s.isAbandoned = true := by
  rcases Bool.or_eq_true_iff.mp hc with hd | he
  · exact h.draining hd
  · -- a loop that has not failed has closed the queue before it ended
    have hp := State.phase_eq_ended_none he h.unfailed
    unfold State.InOrder at ho
    rw [hp] at ho
    exact h.draining (ho.2 rfl)

/-- To the producers that can go on the queue is open. -/
theorem isClosed_eq_false (h : Patient s) (ho : s.InOrder) {producer : Producer α}
    {others : List (Producer α)} (hr : s.ready = producer :: others) : s.isClosed = false := by
  by_contra hc
  have hready := State.ready_of_isAbandoned (h.isAbandoned ho (by simpa using hc))
  rw [hr] at hready
  cases hready

theorem loopMove (h : Patient s) (hm : LoopMove s taken none t) : Patient t := by
  have hk := hm.keeps
  refine ⟨hk.signalled.trans h.signalled, fun hd => hk.isAbandoned ?_, ?_, hm.phase_ne_failed⟩
  · exact (hm.closes hd).elim h.draining fun hs => hs.resolve_left (by simp [h.signalled])
  · rw [hk.ended]
    exact h.complete

theorem production (h : Patient s) (ho : s.InOrder) {producer : Producer α}
    {others : List (Producer α)} (hr : s.ready = producer :: others)
    (hp : Production s producer others t) : Patient t := by
  have hopen := h.isClosed_eq_false ho hr
  have hd : s.draining = true → t.isAbandoned = true := by
    rw [(Bool.or_eq_false_iff.mp hopen).1]
    exact nofun
  cases hp with
  | done =>
    refine ⟨h.signalled, hd, fun e he => ?_, h.unfailed⟩
    rcases List.mem_append.mp he with he | he
    · exact h.complete e he
    · rw [List.mem_singleton.mp he]
  | refused _ hc =>
    rw [hopen] at hc
    cases hc
  | accepted | waits => exact ⟨h.signalled, hd, h.complete, h.unfailed⟩

theorem step (h : Patient s) {step : Step α} (ha : step.isAdvance = false)
    (hw : step.needsWriter = true → s.held = true) (hne : step ≠ .shutdown) :
    Patient (s.perform step) := by
  cases step with
  | advance => cases ha
  | shutdown => exact absurd rfl hne
  | store =>
    refine ⟨h.signalled, fun hd => ?_, h.complete, h.unfailed⟩
    have hheld := (State.isAbandoned_iff.mp (h.draining hd)).1
    rw [hw rfl] at hheld
    cases hheld
  | drop =>
    refine ⟨h.signalled, fun hd => ?_, h.complete, h.unfailed⟩
    exact State.isAbandoned_iff.mpr ⟨rfl, (State.isAbandoned_iff.mp (h.draining hd)).2⟩
  | _ => exact ⟨h.signalled, h.draining, h.complete, h.unfailed⟩

end Patient

def Unrefused (events : List (Event α)) : Prop := ∀ taken call, .loop taken (some call) ∉ events

theorem Unrefused.of_append {events more : List (Event α)} (h : Unrefused (events ++ more)) :
    Unrefused events ∧ Unrefused more :=
  ⟨fun taken call hm => h taken call (List.mem_append_left _ hm),
    fun taken call hm => h taken call (List.mem_append_right _ hm)⟩

/-- A writer that has not failed has a store that has refused nothing. -/
theorem Path.unrefused {events : List (Event α)} (h : Path s events t)
    (hf : ∀ failure, t.phase ≠ .ended (some failure)) : Unrefused events := by
  induction h with
  | refl => exact fun _ _ => List.not_mem_nil
  | @snoc t u events event _ ht ih =>
    have hbefore : Unrefused events := by
      refine ih fun failure hp => hf failure ?_
      have hended : t.hasEnded = true := by rw [State.hasEnded, hp]
      rw [(ht.settled hended).phase, hp]
    intro taken call hmem
    rcases List.mem_append.mp hmem with hmem | hmem
    · exact hbefore taken call hmem
    · obtain rfl := List.mem_singleton.mp hmem
      cases ht with
      | loop hm => exact hf _ hm.refused.2

/-- Nobody is refused before the writer is asked to end or fails. -/
theorem Path.patient {events : List (Event α)} (hs : State.spawn? policy = some s)
    (h : Path s events t) (hasked : .shutdown ∉ events.filterMap Event.step?)
    (hf : Unrefused events) : Patient t := by
  induction h with
  | refl => exact .of_spawn? hs
  | @snoc t u events event h ht ih =>
    rw [List.filterMap_append, List.mem_append, not_or] at hasked
    have hpatient : Patient t := ih hasked.1 hf.of_append.1
    cases ht with
    | @loop _ taken refused hm =>
      cases refused with
      | none => exact hpatient.loopMove hm
      | some call => exact absurd (by simp) (hf taken call)
    | produce hr hp => exact hpatient.production (h.inOrder hs) hr hp
    | clock => exact ⟨hpatient.signalled, hpatient.draining, hpatient.complete, hpatient.unfailed⟩
    | @step step ha hw =>
      refine hpatient.step ha hw ?_
      rintro rfl
      exact hasked.2 (by simp [Event.step?])

/-- Where nobody is left and nobody was refused, all rows were accepted. -/
theorem Accounted.all {programs : List (List α)} (h : Accounted s programs)
    (hr : s.roster = []) (hc : ∀ e ∈ s.ended, e.complete = true) (id : Nat) (rows : List α)
    (hrows : programs[id]? = some rows) :
    ⟨id, rows.length, true⟩ ∈ s.ended ∧ s.acceptedOf id = rows := by
  have hids := h.ids
  rw [hr, List.map_nil, List.nil_append, h.spawned] at hids
  have hid : id ∈ s.ended.map Ended.id :=
    hids.mem_iff.mpr (List.mem_range.mpr (List.getElem?_eq_some_iff.mp hrows).1)
  obtain ⟨e, he, rfl⟩ := List.mem_map.mp hid
  obtain ⟨rows', hprog, -, htake, hall⟩ := h.ended_eq_take he
  rw [hrows, Option.some.injEq] at hprog
  subst hprog
  have hstored : e.stored = rows.length := hall.mp (hc e he)
  rw [hstored, List.take_length] at htake
  refine ⟨?_, htake⟩
  rwa [← hstored, ← hc e he]

/-- What holds after some steps of a writer that nobody has asked to end and that has not failed. -/
structure Unforced (steps : List (Step α)) (s : State α) : Prop where
  complete : ∀ e ∈ s.ended, e.complete = true
  unfailed : ∀ failure, s.phase ≠ .ended (some failure)
  /-- The queue is closed, and the loop ends, only when nobody holds the writer any more. -/
  closed : s.isClosed = true → .drop ∈ steps ∧ s.isAbandoned = true
  stored : s.isClosed = true → ∀ (id : Nat) (rows : List α), (programs steps)[id]? = some rows →
    ⟨id, rows.length, true⟩ ∈ s.ended ∧ s.acceptedOf id = rows
  written : s.phase = .ended none → s.store.sent.flatten = s.acceptedRows ∧
    ∀ (id : Nat) (rows : List α), (programs steps)[id]? = some rows → s.sentOf id = rows

theorem Path.unforced {events : List (Event α)} (hs : State.spawn? policy = some s)
    (h : Path s events t) (hasked : .shutdown ∉ events.filterMap Event.step?)
    (hf : Unrefused events) : Unforced (events.filterMap Event.step?) t := by
  have hpatient := h.patient hs hasked hf
  have haccounted := h.accounted hs
  have habandoned := hpatient.isAbandoned (h.inOrder hs)
  have hall := fun hc =>
    haccounted.all (State.isAbandoned_iff.mp (habandoned hc)).2 hpatient.complete
  refine ⟨hpatient.complete, hpatient.unfailed, fun hc => ⟨?_, habandoned hc⟩, hall, fun hp => ?_⟩
  · have hany : t.isAsked = true := by
      rw [State.isAsked, (State.isAbandoned_iff.mp (habandoned hc)).1, Bool.not_false, Bool.or_true]
    rw [h.isAsked_eq hs, List.any_eq_true] at hany
    obtain ⟨step, hmem, hseals⟩ := hany
    cases step with
    | shutdown => exact absurd hmem hasked
    | drop => exact hmem
    | _ => cases hseals
  · have hledger := h.ledger hs
    unfold State.Ledger at hledger
    rw [hp] at hledger
    have hc : t.isClosed = true := by rw [State.isClosed, State.hasEnded, hp, Bool.or_true]
    refine ⟨hledger, fun id rows hrows => ?_⟩
    rw [State.sentOf_eq_acceptedOf hledger]
    exact (hall hc id rows hrows).2

/-- Letting time pass starts nobody and gives nothing up. -/
theorem Unforced.of_filter {steps : List (Step α)}
    (h : Unforced (steps.filter (!·.isAdvance)) s) : Unforced steps s := by
  refine ⟨h.complete, h.unfailed, fun hc => ?_, ?_, ?_⟩
  · exact (h.closed hc).imp_left List.mem_of_mem_filter
  · simpa only [programs_filter] using h.stored
  · simpa only [programs_filter] using h.written

/-- The writer has ended, with everything in the store unless the store refused a call. -/
structure Emptied (events : List (Event α)) (u : State α) : Prop where
  ended : u.hasEnded = true
  written : Unrefused events → u.phase = .ended none ∧ Unforced (events.filterMap Event.step?) u

theorem Path.emptied {start : State α} {before events : List (Event α)} {longest : Nat}
    (hs : State.spawn? policy = some start) (hp : Path start before s)
    (hasked : .shutdown ∉ before.filterMap Event.step?) (hh : s.held = false)
    (hstalled : s.store.stalled = false) (hleft : s.appendLeft ≤ longest)
    (hdelay : s.store.delay ≤ longest) (h : Path s events t) (hr : t.IsAtRest)
    (hm : ∀ step ∈ events.filterMap Event.step?, step.Mild longest)
    (hn : s.now + (s.pending + 1) * longest ≤ t.now) : Emptied (before ++ events) t := by
  have hended := h.ends_in_time hm ((Slots.of_spawn? hs).path hp) (hp.inOrder hs) hh hstalled hleft
    hdelay hr hn
  refine ⟨hended, fun hf => ?_⟩
  have hall : .shutdown ∉ (before ++ events).filterMap Event.step? := by
    rw [List.filterMap_append, List.mem_append, not_or]
    exact ⟨hasked, (h.shutdown_not_mem hh).2⟩
  have hunforced := (hp.trans h).unforced hs hall hf
  exact ⟨State.phase_eq_ended_none hended hunforced.unfailed, hunforced⟩

/-- As long as nobody asks the writer to end and the store refuses nothing, nobody is refused, and
the writer ends only when it was given up and everybody is done, with all rows in the store. It
then does end, within the time that the appends of the rows that are left take. -/
theorem waits_for_everybody {start : State α} (hs : State.spawn? policy = some start) :
    (∀ events s, Path start events s → .shutdown ∉ events.filterMap Event.step? →
      Unrefused events → Unforced (events.filterMap Event.step?) s) ∧
    (∀ steps states i s, start.run? steps = some states → states[i]? = some s →
      .shutdown ∉ steps.take (i + 1) →
      ∃ events, Path start events s ∧
        events.filterMap Event.step? = (steps.take (i + 1)).filter (!·.isAdvance) ∧
        (Unrefused events → Unforced (steps.take (i + 1)) s)) ∧
    ∀ before s longest, Path start before s → .shutdown ∉ before.filterMap Event.step? →
      s.held = false → s.store.stalled = false → s.appendLeft ≤ longest →
      s.store.delay ≤ longest →
      (∀ events u, Path s events u → u.IsAtRest →
        (∀ step ∈ events.filterMap Event.step?, step.Mild longest) →
        s.now + (s.pending + 1) * longest ≤ u.now → Emptied (before ++ events) u) ∧
      ∀ steps states i u, s.IsAtRest → s.run? steps = some states → states[i]? = some u →
        (∀ step ∈ steps.take (i + 1), step.Mild longest) →
        s.now + (s.pending + 1) * longest ≤ u.now →
        ∃ events, Path s events u ∧
          events.filterMap Event.step? = (steps.take (i + 1)).filter (!·.isAdvance) ∧
          Emptied (before ++ events) u := by
  refine ⟨fun events s h hasked hf => h.unforced hs hasked hf, ?_, ?_⟩
  · intro steps states i s hrun hi hasked
    obtain ⟨-, events, h, hsteps⟩ :=
      State.exists_path_of_run? (State.isAtRest_of_spawn? hs) hrun hi
    refine ⟨events, h, hsteps, fun hf => ?_⟩
    have hnot : .shutdown ∉ events.filterMap Event.step? := by
      rw [hsteps]
      exact fun hmem => hasked (List.mem_of_mem_filter hmem)
    have hunforced := h.unforced hs hnot hf
    rw [hsteps] at hunforced
    exact hunforced.of_filter
  · intro before s longest hp hasked hh hstalled hleft hdelay
    refine ⟨fun events u h hr hm hn => ?_, fun steps states i u hr hrun hi hm hn => ?_⟩
    · exact hp.emptied hs hasked hh hstalled hleft hdelay h hr hm hn
    · obtain ⟨hru, events, h, hsteps⟩ := State.exists_path_of_run? hr hrun hi
      refine ⟨events, h, hsteps, hp.emptied hs hasked hh hstalled hleft hdelay h hru ?_ hn⟩
      rw [hsteps]
      exact fun step hstep => hm step (List.mem_of_mem_filter hstep)

/-- Two producers wait for the only slot when the writer is given up. -/
theorem waits_for_everybody_blocked : ∃ (start s u : State Nat) (before events : List (Event Nat)),
    State.spawn? ⟨1, 2, 100⟩ = some start ∧ Path start before s ∧ Path s events u ∧
    (s.held, s.waiting.map (·.id)) = (false, [0, 1]) ∧ s.now + (s.pending + 1) * 5 = u.now ∧
    Unforced (before.filterMap Event.step?) s ∧ Emptied (before ++ events) u ∧
    u.ended = [⟨0, 3, true⟩, ⟨1, 1, true⟩] ∧ u.store.sent = [[7, 8], [9, 5]] := by
  have heval : ((State.spawn? ⟨1, 2, 100⟩).bind fun start =>
      (start.run? [.slowAppends 5, .store [7, 8, 9], .store [5], .drop]).bind fun states =>
        states[3]?.map fun s => ((s.held, s.waiting.map (·.id)), s.phase,
          (s.store.stalled, s.appendLeft, s.store.delay), (s.now, s.pending),
          (s.run? [.advance 20]).bind fun answers =>
            answers[0]?.map fun u => (u.now, u.ended, u.store.sent))) =
      some ((false, [0, 1]), .appending 7 ⟨[], 0⟩ 5, (false, 5, 5), (0, 3),
        some (20, [⟨0, 3, true⟩, ⟨1, 1, true⟩], [[7, 8], [9, 5]])) := by cbv
  obtain ⟨start, states, s, hs, hrun, hi, heval⟩ := State.exists_answer_of_spawn? heval
  simp only [Prod.mk.injEq] at heval
  obtain ⟨⟨hheld, hwaiting⟩, hphase, ⟨hstalled, hleft, hdelay⟩, ⟨hnow, hpending⟩, hlater⟩ := heval
  obtain ⟨answers, u, hrun', hi', hlater⟩ := State.exists_answer_of_run? hlater
  simp only [Prod.mk.injEq] at hlater
  obtain ⟨hnow', hended, hsent⟩ := hlater
  have hr : s.IsAtRest := (State.exists_path_of_run? (State.isAtRest_of_spawn? hs) hrun hi).1
  have hdeadline : s.now + (s.pending + 1) * 5 = u.now := by rw [hnow, hpending, hnow']
  obtain ⟨hpath, hsteps, hlater⟩ := waits_for_everybody hs
  obtain ⟨before, hp, htaken, -⟩ := hsteps _ _ 3 s hrun hi (by simp)
  have hasked : .shutdown ∉ before.filterMap Event.step? := by
    rw [htaken]
    simp
  have hunforced := hpath _ _ hp hasked (hp.unrefused (by simp [hphase]))
  obtain ⟨-, hemptied⟩ := hlater _ s 5 hp hasked hheld hstalled (Nat.le_of_eq hleft)
    (Nat.le_of_eq hdelay)
  obtain ⟨events, hu, -, he⟩ := hemptied _ _ 0 u hr hrun' hi' (by simp [Step.Mild])
    (Nat.le_of_eq hdeadline)
  exact ⟨start, s, u, before, events, hs, hp, hu, by rw [hheld, hwaiting], hdeadline, hunforced,
    he, hended, hsent⟩

end Pageviews.Writer
