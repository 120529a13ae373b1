import Pageviews.Proofs.Writer.Ledger
import Pageviews.Proofs.Writer.Slots

/-! What a call that the store refuses does to the writer. Main statement: the writer ends with the
failure of that call, for good, with the store at the end of a batch. -/
namespace Pageviews.Writer

open Store (FailurePoint)

variable {α : Type}

namespace Delivery

variable {s t : State α} {row : α} {current : Option (Batch α)} {taken : List (Call α)}

theorem refused {call : Call α} (h : Delivery s row current taken (some call) t) :
    s.store.fails call.point = true ∧ t.phase = .ended (some call.failure) ∧
      ∀ rows, call ≠ .send rows := by
  cases h with
  | notOpened h | notFirst _ h | notNext _ h => exact ⟨h, rfl, nofun⟩

theorem taken_not_failing {refused : Option (Call α)} (h : Delivery s row current taken refused t) :
    ∀ call ∈ taken, s.store.fails call.point = false := by
  cases h with
  | notFirst ho => exact List.forall_mem_singleton.mpr ho
  | first ho ha => exact List.forall_mem_cons.mpr ⟨ho, List.forall_mem_singleton.mpr ha⟩
  | next _ ha => exact List.forall_mem_singleton.mpr ha
  | _ => nofun

theorem store {refused : Option (Call α)} (h : Delivery s row current taken refused t) :
    t.store.sent = s.store.sent ++ taken.filterMap Call.sent? ∧
      t.store.opened = s.store.opened + taken.countP Call.isOpen := by
  cases h <;> exact ⟨(List.append_nil _).symm, rfl⟩

end Delivery

namespace LoopMove

variable {s t : State α} {taken : List (Call α)}

theorem refused {call : Call α} (h : LoopMove s taken (some call) t) :
    s.store.fails call.point = true ∧ t.phase = .ended (some call.failure) := by
  cases h with
  | @take _ _ queue _ _ _ _ _ _ _ _ _ h =>
    obtain ⟨hf, hp, -⟩ := h.refused
    rw [State.store_grantSlot] at hf
    exact ⟨hf, hp⟩
  | takeLate _ _ _ h | sentBefore _ _ _ h => exact ⟨h.refused.1, h.refused.2.1⟩
  | notSent _ _ hf => exact ⟨hf, rfl⟩

theorem taken_not_failing {refused : Option (Call α)} (h : LoopMove s taken refused t) :
    ∀ call ∈ taken, s.store.fails call.point = false := by
  cases h with
  | @take _ _ queue _ _ _ _ _ _ _ _ _ h =>
    have hd := h.taken_not_failing
    rwa [State.store_grantSlot] at hd
  | takeLate _ _ _ h => exact h.taken_not_failing
  | sentBefore _ _ hf h => exact List.forall_mem_cons.mpr ⟨hf, h.taken_not_failing⟩
  | sent _ _ hf | sentLast _ _ hf => exact List.forall_mem_singleton.mpr hf
  | _ => nofun

/-- A batch that the store refuses is not empty. -/
theorem refused_rows_ne_nil {rows : List α} (h : LoopMove s taken (some (.send rows)) t)
    (ho : s.InOrder) : rows ≠ [] := by
  cases h with
  | take _ _ _ _ _ _ h | takeLate _ _ _ h | sentBefore _ _ _ h =>
    exact absurd rfl (h.refused.2.2 rows)
  | notSent hp => exact ho.sending hp

theorem store {refused : Option (Call α)} (h : LoopMove s taken refused t) :
    t.store.sent = s.store.sent ++ taken.filterMap Call.sent? ∧
      t.store.opened = s.store.opened + taken.countP Call.isOpen := by
  cases h with
  | take _ _ _ _ _ _ h =>
    have hs := h.store
    rwa [State.store_grantSlot] at hs
  | takeLate _ _ _ h => exact h.store
  | @sentBefore batch _ _ _ taken _ _ _ _ _ h =>
    obtain ⟨hsent, hopened⟩ := h.store
    refine ⟨?_, hopened⟩
    rw [hsent]
    simp [State.kept, Store.Memory.keep, Call.sent?]
  | sent | sentLast => exact ⟨rfl, rfl⟩
  | _ => exact ⟨(List.append_nil _).symm, rfl⟩

end LoopMove

/-- The store holds the batches that were sent to it, and has counted those that were opened. -/
theorem Path.store {s t : State α} {events : List (Event α)} (h : Path s events t) :
    t.store.sent = s.store.sent ++ events.flatMap Event.sent ∧
      t.store.opened = s.store.opened + total (events.map Event.opened) := by
  induction h with
  | refl => simp [total]
  | @snoc t u events event h ht ih =>
    obtain ⟨hsent, hopened⟩ := ih
    have hu : u.store.sent = t.store.sent ++ event.sent ∧
        u.store.opened = t.store.opened + event.opened := by
      cases ht with
      | loop h => exact h.store
      | produce _ h => cases h <;> simp [Event.sent, Event.opened, State.retire, State.accept]
      | clock => simp [Event.sent, Event.opened]
      | @step step ha =>
        cases step with
        | advance => cases ha
        | _ => exact ⟨(List.append_nil _).symm, rfl⟩
    rw [hu.1, hu.2, hsent, hopened]
    simp [total_append, total, Nat.add_assoc]

/-- What an ended writer never changes. -/
structure Settled (s t : State α) : Prop where
  phase : t.phase = s.phase
  sent : t.store.sent = s.store.sent
  opened : t.store.opened = s.store.opened

theorem Transition.settled {s t : State α} {event : Event α} (h : Transition s event t)
    (he : s.hasEnded = true) : Settled s t := by
  cases h with
  | loop h =>
    rw [h.hasEnded_eq_false] at he
    cases he
  | produce _ h => cases h <;> exact ⟨rfl, rfl, rfl⟩
  | clock => exact ⟨rfl, rfl, rfl⟩
  | @step step ha =>
    cases step with
    | advance => cases ha
    | _ => exact ⟨rfl, rfl, rfl⟩

theorem Path.settled {s t : State α} {events : List (Event α)} (h : Path s events t)
    (he : s.hasEnded = true) : Settled s t := by
  induction h with
  | refl => exact ⟨rfl, rfl, rfl⟩
  | @snoc t u _ _ _ ht ih =>
    have het : t.hasEnded = true := by
      unfold State.hasEnded at he ⊢
      rwa [ih.phase]
    have hu := ht.settled het
    exact ⟨hu.phase.trans ih.phase, hu.sent.trans ih.sent, hu.opened.trans ih.opened⟩

/-- A move by which the writer fails is one in which the store refuses a call. -/
theorem LoopMove.phase_ne_failed {s t : State α} {taken : List (Call α)}
    (h : LoopMove s taken none t) (failure : Failure) : t.phase ≠ .ended (some failure) := by
  intro hp
  cases h with
  | beginDrain hp' =>
    have hp'' : s.phase = .ended (some failure) := hp
    rw [hp'] at hp''
    cases hp''
  | take _ _ _ _ _ _ h | takeLate _ _ _ h | sentBefore _ _ _ h => cases h <;> cases hp
  | _ => cases hp

/-- A writer that has ended has failed or done everything. -/
theorem State.phase_eq_ended_none {s : State α} (he : s.hasEnded = true)
    (hf : ∀ failure, s.phase ≠ .ended (some failure)) : s.phase = .ended none := by
  cases hp : s.phase with
  | ended failure =>
    cases failure with
    | none => rfl
    | some failure => exact absurd hp (hf failure)
  | _ => simp [hasEnded, hp] at he

/-- A writer has failed only if the store has refused a call, and with the failure of that call. -/
theorem Path.exists_refused {s t : State α} {events : List (Event α)} {failure : Failure}
    (h : Path s events t) (he : s.hasEnded = false) (hp : t.phase = .ended (some failure)) :
    ∃ before u taken call v after, Path s before u ∧ LoopMove u taken (some call) v ∧
      Path v after t ∧ events = before ++ .loop taken (some call) :: after ∧
      call.failure = failure := by
  induction h with
  | refl => simp [State.hasEnded, hp] at he
  | @snoc t u events event h ht ih =>
    -- every event but a refused call leaves the phase as it was, if that is a failure
    have hold : t.phase = .ended (some failure) → ∃ before u' taken call v after,
        Path s before u' ∧ LoopMove u' taken (some call) v ∧ Path v after u ∧
        events ++ [event] = before ++ .loop taken (some call) :: after ∧
        call.failure = failure := by
      intro hpt
      obtain ⟨before, u', taken, call, v, after, hu, hm, hv, rfl, hf⟩ := ih hpt
      exact ⟨before, u', taken, call, v, after ++ [event], hu, hm, hv.snoc ht, by simp, hf⟩
    cases ht with
    | @loop _ taken refused hm =>
      cases refused with
      | none => exact absurd hp (hm.phase_ne_failed failure)
      | some call =>
        have hf : call.failure = failure := by
          rw [hm.refused.2] at hp
          exact Option.some.inj (Phase.ended.inj hp)
        exact ⟨events, t, taken, call, u, [], h, hm, .refl u, rfl, hf⟩
    | produce _ hprod => cases hprod <;> exact hold hp
    | clock => exact hold hp
    | @step step ha =>
      cases step with
      | advance => cases ha
      | _ => exact hold hp

/-- What holds of a writer ever after the store has refused a call. The producers are those of the
state in which the call was made, and the events are those until then. -/
structure FailStopped (s : State α) (events : List (Event α)) (call : Call α) (u : State α) : Prop
    extends Sealed s u where
  result : u.phase = .ended (some call.failure)
  sent : u.store.sent = events.flatMap Event.sent
  opened : u.store.opened = total (events.map Event.opened)
  /-- The rows of the batch come right after those that are in the store. -/
  lost : u.store.sent.flatten ++ call.batchRows <+: u.acceptedRows
  later : ∀ rows, rows ≠ [] → ⟨u.spawned, 0, false⟩ ∈ (u.take (.store rows)).ended ∧
    (u.take (.store rows)).accepted = u.accepted
  absorbing : u.IsAtRest → ∀ steps states, u.run? steps = some states →
    ∀ (i : Nat) (v : State α), states[i]? = some v → Settled u v ∧ v.isClosed = true

theorem LoopMove.failStopped {policy : Policy} {start s t u : State α}
    {before after : List (Event α)} {taken : List (Call α)} {call : Call α}
    (hs : State.spawn? policy = some start) (hp : Path start before s)
    (hm : LoopMove s taken (some call) t) (hu : Path t after u) :
    FailStopped s (before ++ [.loop taken (some call)]) call u := by
  obtain ⟨-, hphase⟩ := hm.refused
  have ht : Path start (before ++ [.loop taken (some call)]) t := hp.snoc (.loop hm)
  have hended : t.hasEnded = true := by rw [State.hasEnded, hphase]
  have hclosed : t.isClosed = true := by rw [State.isClosed, hended, Bool.or_true]
  have hsettled := hu.settled hended
  have hslots := (Slots.of_spawn? hs).path hp
  have hslotsT := hslots.loopMove hm
  have hsealed := hu.sealed hslots hslotsT hm.keeps.roster hm.keeps.accepted hclosed
  have hstore := ht.store
  have hempty : start.store = .empty := by rw [State.eq_fresh hs, State.fresh]
  rw [hempty, Store.Memory.empty, List.nil_append, Nat.zero_add] at hstore
  refine ⟨hsealed, hsettled.phase.trans hphase, hsettled.sent.trans hstore.1,
    hsettled.opened.trans hstore.2, ?_, ?_, ?_⟩
  · rw [hsettled.sent, State.acceptedRows, hsealed.accepted, ← hm.keeps.accepted]
    exact hm.lost (hp.ledger hs)
  · exact fun rows hne => State.refused_of_isClosed (hslotsT.path hu) hsealed.closed hne
  · intro hr steps states hrun i v hi
    obtain ⟨-, events, hv, -⟩ := State.exists_path_of_run? hr hrun hi
    have hendedU : u.hasEnded = true := by
      unfold State.hasEnded at hended ⊢
      rwa [hsettled.phase]
    exact ⟨hv.settled hendedU, (hv.released hsealed.closed).closed⟩

/-- Wherever the store refuses a call, the writer fails with it and stays as it then is; and this is
how every writer fails. -/
theorem fail_stop {policy : Policy} {start : State α} (hs : State.spawn? policy = some start) :
    (∀ before s taken call t after u, Path start before s → LoopMove s taken (some call) t →
      Path t after u →
      s.store.failure = some call.point ∧ (∀ c ∈ taken, s.store.failure ≠ some c.point) ∧
      (∀ rows, call = .send rows → 1 ≤ rows.length) ∧
      FailStopped s (before ++ [.loop taken (some call)]) call u) ∧
    ∀ (steps : List (Step α)) (states : List (State α)) (i : Nat) (u : State α)
      (failure : Failure), start.run? steps = some states → states[i]? = some u →
      u.phase = .ended (some failure) →
      u.IsAtRest ∧ ∃ before s taken call t after, Path start before s ∧
        LoopMove s taken (some call) t ∧ Path t after u ∧ call.failure = failure ∧
        FailStopped s (before ++ [.loop taken (some call)]) call u := by
  constructor
  · intro before s taken call t after u hp hm hu
    refine ⟨?_, ?_, ?_, hm.failStopped hs hp hu⟩
    · simpa [Store.Memory.fails] using hm.refused.1
    · intro c hc
      simpa [Store.Memory.fails] using hm.taken_not_failing c hc
    · rintro rows rfl
      exact List.length_pos_iff.mpr (hm.refused_rows_ne_nil (hp.inOrder hs))
  · intro steps states i u failure hrun hi hphase
    have hrunning : start.hasEnded = false := by
      rw [State.eq_fresh hs]
      rfl
    obtain ⟨hr, events, hp, -⟩ := State.exists_path_of_run? (State.isAtRest_of_spawn? hs) hrun hi
    obtain ⟨before, s, taken, call, t, after, hsp, hm, hu, -, hf⟩ :=
      hp.exists_refused hrunning hphase
    exact ⟨hr, before, s, taken, call, t, after, hsp, hm, hu, hf, hm.failStopped hs hsp hu⟩

/-- A stalled batch that the store refuses once it is no longer stalled. -/
theorem fail_stop_after_stall : ∃ (start s t : State Nat) (events : List (Event Nat)),
    State.spawn? ⟨1, 1, 10⟩ = some start ∧ LoopMove s [] (some (.send [7])) t ∧
    FailStopped s (events ++ [.loop [] (some (.send [7]))]) (.send [7]) t := by
  have heval : ((State.spawn? ⟨1, 1, 10⟩).bind fun start =>
      (start.run? [.stall, .store [7, 8, 9], .failOn .sending]).bind fun states =>
        states[2]?.map fun s => (s.phase, s.store.failure)) =
      some (.sending ⟨[7], 0⟩ .size 0 .wait, some .sending) := by cbv
  obtain ⟨start, states, s, hs, hrun, hi, heval⟩ := State.exists_answer_of_spawn? heval
  obtain ⟨hphase, hfailure⟩ := Prod.mk.inj heval
  obtain ⟨-, before, hp, -⟩ := State.exists_path_of_run? (State.isAtRest_of_spawn? hs) hrun hi
  have hresumed : Path start (before ++ [.step .resume]) (s.perform .resume) :=
    hp.snoc (.step rfl (by simp [Step.needsWriter]))
  have hfails : (s.perform .resume).store.fails .sending = true := decide_eq_true hfailure
  have hphase' : (s.perform .resume).phase = .sending ⟨[7], 0⟩ .size 0 .wait := hphase
  have hm := LoopMove.notSent hphase' rfl hfails
  obtain ⟨-, -, -, h⟩ := (fail_stop hs).1 _ _ _ _ _ _ _ hresumed hm (.refl _)
  exact ⟨start, _, _, _, hs, hm, h⟩

end Pageviews.Writer
