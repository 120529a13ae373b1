import Pageviews.Proofs.Writer.Batching

/-! What the writer has sent when it answers. Main statement: of the scheduled batches, it is those
whose time has come. -/
namespace Pageviews.Writer

variable {α : Type} {s t : State α}

/-- Whether somebody has let the loop close the queue. -/
def State.isAsked (s : State α) : Bool := s.signalled || !s.held

theorem Path.isAsked_eq {policy : Policy} {events : List (Event α)}
    (hs : State.spawn? policy = some s) (h : Path s events t) :
    t.isAsked = (events.filterMap Event.step?).any Step.seals := by
  induction h with
  | refl =>
    obtain rfl := State.eq_fresh hs
    rfl
  | @snoc t u events event _ ht ih =>
    rw [List.filterMap_append, List.any_append, ← ih]
    cases ht with
    | loop hm =>
      simp [State.isAsked, hm.keeps.signalled, hm.keeps.held, Event.step?]
    | produce _ hp => cases hp <;> exact (Bool.or_false _).symm
    | clock => exact (Bool.or_false _).symm
    | @step step ha =>
      cases step with
      | advance => cases ha
      | shutdown | drop => simp [State.isAsked, State.perform, Event.step?, Step.seals]
      | _ => exact (Bool.or_false _).symm

theorem Delivery.draining_eq {row : α} {current : Option (Batch α)} {taken : List (Call α)}
    {refused : Option (Call α)} (h : Delivery s row current taken refused t) :
    t.draining = s.draining := by
  cases h <;> rfl

/-- The loop closes the queue only for a shutdown, or when nobody is left. -/
theorem LoopMove.closes {taken : List (Call α)} {refused : Option (Call α)}
    (h : LoopMove s taken refused t) (hd : t.draining = true) :
    s.draining = true ∨ s.signalled = true ∨ s.isAbandoned = true := by
  cases h with
  | beginDrain _ _ hs => exact .inr hs
  | take _ _ _ _ _ _ h =>
    rw [h.draining_eq, State.draining_grantSlot] at hd
    exact .inl hd
  | takeLate _ hd' => exact .inl hd'
  | sentBefore _ _ _ h =>
    rw [h.draining_eq] at hd
    exact .inl hd
  | _ => exact .inl hd

/-- The loop closes the queue only when it has been asked to. -/
theorem LoopMove.draining {taken : List (Call α)} {refused : Option (Call α)}
    (h : LoopMove s taken refused t) (hd : t.draining = true) :
    s.draining = true ∨ s.isAsked = true := by
  refine (h.closes hd).imp_right fun hs => ?_
  rcases hs with hs | hs
  · simp [State.isAsked, hs]
  · simp only [State.isAbandoned, Bool.and_eq_true] at hs
    simp [State.isAsked, hs.1.1]

theorem Path.isAsked {policy : Policy} {events : List (Event α)}
    (hs : State.spawn? policy = some s) (h : Path s events t) (hd : t.draining = true) :
    t.isAsked = true := by
  refine h.invariant (P := fun t => t.draining = true → t.isAsked = true) ?_ ?_ hd
  · intro s t event ht hkeep hd
    cases ht with
    | loop hm =>
      have ha : s.isAsked = true := (hm.draining hd).elim hkeep id
      rwa [State.isAsked, hm.keeps.signalled, hm.keeps.held]
    | produce _ hp => cases hp <;> exact hkeep hd
    | clock => exact hkeep hd
    | @step step ha =>
      cases step with
      | advance => cases ha
      | shutdown | drop => simp [State.isAsked, State.perform]
      | _ => exact hkeep hd
  · obtain rfl := State.eq_fresh hs
    intro hd
    cases hd

/-- A loop that waits for a row has not been asked to end. -/
theorem State.isAsked_eq_false {batch? : Option (Batch α)} (hs : Slots s) (hr : s.IsAtRest)
    (hp : s.phase = .idle batch?) (hq : s.queue = []) : s.isAsked = false := by
  have hw := hs.waiting_eq_nil hq hr.2
  have hm := move_eq_none_iff.mp hr.1
  by_contra ha
  rw [Bool.not_eq_false, isAsked, Bool.or_eq_true] at ha
  refine hm (canMove_of_signalled hp (ha.imp_right fun hheld => ?_))
  simpa [isAbandoned, hr.2, hw] using hheld

namespace Grouped

variable {closed : List (List (Admission α))} {current rest : List (Admission α)}

theorem filter_closed (h : Grouped s closed current rest) (sealed : Option Nat) :
    closed.filter (s.policy.closedAt sealed · ≤ s.now) = closed := by
  rw [List.filter_eq_self]
  intro batch hb
  obtain ⟨openedAt, hg, hc⟩ := h.complete batch hb
  refine decide_eq_true (hg.closedAt_le (fun a ha => h.past a ?_) hc)
  rw [h.accepted]
  exact List.mem_append_left _ (List.mem_append_left _ (List.mem_flatten.mpr ⟨batch, hb, ha⟩))

theorem sent_flatten (h : Grouped s closed current rest) :
    s.store.sent.flatten = closed.flatten.map Admission.row := by
  rw [h.sent, List.map_flatten]

end Grouped

namespace Batched

/-- At rest the batches that are closed by now have been sent, and no others. -/
theorem sent_eq (h : Batched s) (hp : Prompt s) (hs : Slots s) (hr : s.IsAtRest)
    {sealed : Option Nat} (hn : s.isAsked = false → sealed = none)
    (he : s.phase = .ended none → ∃ time, sealed = some time ∧ time ≤ s.now) :
    s.store.sent = ((s.policy.batches s.accepted).filter
      (s.policy.closedAt sealed · ≤ s.now)).map (List.map Admission.row) := by
  cases h with
  | ended hphase hpast hsent =>
    obtain ⟨time, rfl, ht⟩ := he hphase
    have hall : (s.policy.batches s.accepted).filter
        (s.policy.closedAt (some time) · ≤ s.now) = s.policy.batches s.accepted := by
      rw [List.filter_eq_self]
      intro batch hb
      refine decide_eq_true (s.policy.closedAt_le_of_sealed (fun a ha => hpast a ?_) ht)
      rw [← s.policy.flatten_batches s.accepted]
      exact List.mem_flatten.mpr ⟨batch, hb, ha⟩
    rw [hall, hsent]
  | @running closed current rest hg hc hrest hf =>
    obtain ⟨hq, batch?, hphase⟩ := idle_of_move hp hr.1 hf
    -- all that is not in a closed batch is in the open one, whose time lies ahead
    obtain rfl := hn (State.isAsked_eq_false hs hr hphase hq)
    rw [hphase] at hc hrest hf
    rw [hq] at hrest
    obtain rfl := List.map_eq_nil_iff.mp hrest
    have hlast : (s.policy.batches current).filter (s.policy.closedAt none · ≤ s.now) = [] := by
      cases batch? with
      | none =>
        obtain rfl := List.map_eq_nil_iff.mp hc
        rfl
      | some batch =>
        have hx : s.now < batch.openedAt + s.policy.batchAge := by
          by_contra hx
          exact State.move_eq_none_iff.mp hr.1
            (State.canMove_of_expired hphase (decide_eq_true (Nat.le_of_not_lt hx)))
        have hlt := hf.1.lt_closedAt hf.2 hx
        rw [hf.1.batches_eq, List.filter_cons_of_neg (by simpa using hlt), List.filter_nil]
    rw [hg.batches_accepted, List.filter_append, hg.filter_closed, hlast, List.append_nil, hg.sent]

/-- No row waits in the writer for longer than a batch may be old. -/
theorem sent_of_old (h : Batched s) (hp : Prompt s) (hr : s.IsAtRest) {j : Nat}
    {a : Admission α} (hj : s.accepted[j]? = some a) (ha : a.time + s.policy.batchAge ≤ s.now) :
    s.store.sent.flatten[j]? = some a.row := by
  cases h with
  | ended hphase hpast hsent =>
    rw [hsent, ← List.map_flatten, s.policy.flatten_batches, List.getElem?_map, hj]
    rfl
  | @running closed current rest hg hc hrest hf =>
    obtain ⟨hq, batch?, hphase⟩ := idle_of_move hp hr.1 hf
    rw [hphase] at hc hrest hf
    rw [hq] at hrest
    obtain rfl := List.map_eq_nil_iff.mp hrest
    rw [hg.accepted, List.append_nil] at hj
    rw [hg.sent_flatten, List.getElem?_map]
    by_cases hlen : j < closed.flatten.length
    · rw [List.getElem?_append_left hlen] at hj
      rw [hj]
      rfl
    · -- the row is in the open batch, which would be too old to be open
      rw [List.getElem?_append_right (Nat.le_of_not_lt hlen)] at hj
      have hmem := List.mem_of_getElem? hj
      cases batch? with
      | none =>
        obtain rfl := List.map_eq_nil_iff.mp hc
        cases hmem
      | some batch =>
        have hlate := hf.1.late a hmem
        have hx : batch.openedAt + s.policy.batchAge ≤ s.now := by omega
        exact absurd (State.canMove_of_expired hphase (decide_eq_true hx))
          (State.move_eq_none_iff.mp hr.1)

end Batched

/-- At every answer the writer has sent just those scheduled batches that are closed by then, and
every row that was accepted a batch's age ago. -/
theorem sent_eq_scheduled {policy : Policy} {start : State α}
    (hs : State.spawn? policy = some start) {steps : List (Step α)} {states : List (State α)}
    (hrun : start.run? steps = some states) (hplain : ∀ step ∈ steps, step.Plain) {i : Nat}
    (hi : states[i]? = some t) :
    t.now = elapsed (steps.take (i + 1)) ∧
    t.store.sent = ((policy.batches t.accepted).filter
      (policy.closedAt (sealedAt (steps.take (i + 1))) · ≤ t.now)).map (List.map Admission.row) ∧
    ∀ (j : Nat) (a : Admission α), t.accepted[j]? = some a → a.time + policy.batchAge ≤ t.now →
      t.store.sent.flatten[j]? = some a.row := by
  obtain ⟨hr, events, hp, he⟩ := State.exists_path_of_run? (State.isAtRest_of_spawn? hs) hrun hi
  have hplain' : ∀ step ∈ events.filterMap Event.step?, step.Plain := by
    rw [he]
    exact fun step hstep => hplain step (List.mem_of_mem_take (List.mem_of_mem_filter hstep))
  obtain ⟨hprompt, hbatched⟩ := hp.batched hs hplain'
  have hasked := hp.isAsked_eq hs
  rw [he, any_seals_filter] at hasked
  have hstart : start.policy = policy ∧ start.now = 0 := by
    rw [State.eq_fresh hs]
    exact ⟨rfl, rfl⟩
  have hnow : t.now = elapsed (steps.take (i + 1)) := by
    rw [State.now_of_run? hrun hi, hstart.2, Nat.zero_add]
  have hpolicy : t.policy = policy := hp.policy.trans hstart.1
  refine ⟨hnow, ?_, ?_⟩
  · rw [← hpolicy]
    refine hbatched.sent_eq hprompt ((Slots.of_spawn? hs).path hp) hr ?_ ?_
    · intro hno
      exact sealedAt_eq_none (hasked.symm.trans hno)
    · intro hphase
      have horder := hp.inOrder hs
      unfold State.InOrder at horder
      rw [hphase] at horder
      rw [hnow]
      exact exists_sealedAt (hasked.symm.trans (hp.isAsked hs (horder.2 rfl)))
  · rw [← hpolicy]
    exact fun j a hj ha => hbatched.sent_of_old hprompt hr hj ha

/-- A batch of two is sent when it is full, and the rest when it is old. -/
theorem sent_two_and_one : ∃ (start t : State Nat) (states : List (State Nat)),
    State.spawn? ⟨1, 2, 10⟩ = some start ∧
    start.run? [.store [7, 8, 9], .advance 10] = some states ∧ states[1]? = some t ∧
    t.store.sent = [[7, 8], [9]] ∧
    t.store.sent = ((Policy.batches ⟨1, 2, 10⟩ t.accepted).filter
      (Policy.closedAt ⟨1, 2, 10⟩ none · ≤ t.now)).map (List.map Admission.row) := by
  have heval : ((State.spawn? ⟨1, 2, 10⟩).bind fun start =>
      (start.run? [.store [7, 8, 9], .advance 10]).bind fun states =>
        states[1]?.map (·.store.sent)) = some [[7, 8], [9]] := by cbv
  obtain ⟨start, states, t, hs, hrun, hi, hsent⟩ := State.exists_answer_of_spawn? heval
  have hplain : ∀ step ∈ [Step.store [7, 8, 9], .advance 10], step.Plain := by
    simp [Step.Plain]
  exact ⟨start, t, states, hs, hrun, hi, hsent, (sent_eq_scheduled hs hrun hplain hi).2.1⟩

end Pageviews.Writer
