import Pageviews.Proofs.Writer.Ledger
import Pageviews.Proofs.Writer.Schedule
import Pageviews.Proofs.Writer.Slots

/-! The batches that the writer sends to a store that is never slow, stalled or failing. Main
statement: they are the scheduled ones, each sent at its time. -/
namespace Pageviews.Writer

variable {α : Type}

/-- A step that neither holds the store up nor makes it fail. -/
def Step.Plain : Step α → Prop
  | stall | slowAppends _ | failOn _ => False
  | _ => True

/-- The store takes everything at once. -/
structure Prompt (s : State α) : Prop where
  stalled : s.store.stalled = false
  delay : s.store.delay = 0
  failure : s.store.failure = none

namespace Prompt

variable {s t : State α}

theorem fails (h : Prompt s) (point : Store.FailurePoint) : s.store.fails point = false := by
  simp [Store.Memory.fails, h.failure]

theorem of_keeps (h : Prompt s) (hk : Keeps s t) : Prompt t where
  stalled := hk.stalled.trans h.stalled
  delay := hk.delay.trans h.delay
  failure := hk.failure.trans h.failure

theorem transition (h : Prompt s) {event : Event α} (ht : Transition s event t)
    (hplain : ∀ step ∈ event.step?, step.Plain) : Prompt t := by
  cases ht with
  | loop hm => exact h.of_keeps hm.keeps
  | produce _ hp => cases hp <;> exact ⟨h.stalled, h.delay, h.failure⟩
  | clock => exact ⟨h.stalled, h.delay, h.failure⟩
  | @step step ha =>
    have hstep := hplain step rfl
    cases step with
    | advance => cases ha
    | stall | slowAppends | failOn => cases hstep
    | resume => exact ⟨rfl, h.delay, h.failure⟩
    | _ => exact ⟨h.stalled, h.delay, h.failure⟩

end Prompt

namespace Phase

/-- The rows of the current batch, with the one that is joining it. -/
def gathered : Phase α → List α
  | idle current => currentRows current
  | appending row batch _ => batch.rows ++ [row]
  | sending batch _ _ _ => batch.rows
  | ended _ => []

theorem length_of_appending {current : List (Admission α)} {row : α} {batch : Batch α}
    {until_ : Nat} (h : current.map Admission.row = (appending row batch until_).gathered) :
    current.length = batch.rows.length + 1 := by
  rw [← List.length_map Admission.row, h, gathered, List.length_append, List.length_singleton]

/-- The row in hand that will open the next batch. -/
def following : Phase α → List α
  | sending _ _ _ (.append row) => [row]
  | _ => []

/-- What the current batch is at each phase, when appends take no time. -/
def Fits (policy : Policy) (now : Nat) (current : List (Admission α)) : Phase α → Prop
  | idle none => True
  | idle (some batch) =>
    policy.Gathers batch.openedAt current ∧ current.length < policy.fullSize
  | appending _ batch until_ => policy.Gathers batch.openedAt current ∧ until_ ≤ now
  | sending batch _ _ next => policy.Gathers batch.openedAt current ∧
      (next ≠ .stop →
        current.length = policy.fullSize ∨ batch.openedAt + policy.batchAge ≤ now)
  | ended _ => False

end Phase

/-- The accepted rows are those of the closed batches, the current one and the rest. However rows
are accepted from now on, the closed batches are scheduled. -/
structure Grouped (s : State α) (closed : List (List (Admission α)))
    (current rest : List (Admission α)) : Prop where
  accepted : s.accepted = closed.flatten ++ current ++ rest
  sent : s.store.sent = closed.map (List.map Admission.row)
  past : ∀ a ∈ s.accepted, a.time ≤ s.now
  fresh : ∀ a ∈ rest, a.time = s.now
  complete : ∀ batch ∈ closed, ∃ openedAt, s.policy.Gathers openedAt batch ∧
    (batch.length = s.policy.fullSize ∨ openedAt + s.policy.batchAge ≤ s.now)
  batches : ∀ more, (∀ a ∈ more, s.now ≤ a.time) →
    s.policy.batches (closed.flatten ++ (current ++ more)) =
      closed ++ s.policy.batches (current ++ more)

namespace Grouped

variable {s t : State α} {closed : List (List (Admission α))} {current rest : List (Admission α)}

theorem of_eq (h : Grouped s closed current rest) (hp : t.policy = s.policy) (hn : t.now = s.now)
    (ha : t.accepted = s.accepted) (hs : t.store.sent = s.store.sent) :
    Grouped t closed current rest where
  accepted := ha.trans h.accepted
  sent := hs.trans h.sent
  past := by rw [ha, hn]; exact h.past
  fresh := by rw [hn]; exact h.fresh
  complete := by rw [hp, hn]; exact h.complete
  batches := by rw [hp, hn]; exact h.batches

/-- When all accepted rows are in batches, these are the scheduled ones. -/
theorem batches_accepted (h : Grouped s closed current []) :
    s.policy.batches s.accepted = closed ++ s.policy.batches current := by
  have hb := h.batches [] nofun
  rw [List.append_nil] at hb
  rw [h.accepted, List.append_nil, hb]

/-- The next row joins the current batch, or opens one. -/
theorem join {a : Admission α} (h : Grouped s closed current (a :: rest)) :
    Grouped s closed (current ++ [a]) rest where
  accepted := by simpa using h.accepted
  sent := h.sent
  past := h.past
  fresh := fun b hb => h.fresh b (List.mem_cons_of_mem _ hb)
  complete := h.complete
  batches := by
    intro more hm
    -- a row that joins now could as well be accepted now
    have ha : s.now ≤ a.time := Nat.le_of_eq (h.fresh a List.mem_cons_self).symm
    have hb := h.batches (a :: more) (List.forall_mem_cons.mpr ⟨ha, hm⟩)
    simpa using hb

/-- The current batch is sent because it is full or old. -/
theorem close (h : Grouped s closed current rest) {openedAt : Nat}
    (hg : s.policy.Gathers openedAt current)
    (hc : current.length = s.policy.fullSize ∨ openedAt + s.policy.batchAge ≤ s.now)
    (hp : t.policy = s.policy) (hn : t.now = s.now) (ha : t.accepted = s.accepted)
    (hs : t.store.sent = s.store.sent ++ [current.map Admission.row]) :
    Grouped t (closed ++ [current]) [] rest where
  accepted := by rw [ha, h.accepted]; simp
  sent := by rw [hs, h.sent]; simp
  past := by rw [ha, hn]; exact h.past
  fresh := by rw [hn]; exact h.fresh
  complete := by
    rw [hp, hn]
    intro batch hb
    rcases List.mem_append.mp hb with hb | hb
    · exact h.complete batch hb
    · rw [List.mem_singleton.mp hb]
      exact ⟨openedAt, hg, hc⟩
  batches := by
    rw [hp, hn]
    intro more hm
    have hnext : s.policy.batches (current ++ more) = current :: s.policy.batches more :=
      hg.batches_append (hc.imp_right fun hold a ha => Nat.le_trans hold (hm a ha))
    rw [List.flatten_append, List.append_assoc, List.flatten_singleton, List.nil_append,
      h.batches more hm, hnext, List.append_assoc]
    rfl

end Grouped

/-- What has become of the accepted rows. -/
inductive Batched (s : State α) : Prop where
  | running {closed : List (List (Admission α))} {current rest : List (Admission α)}
      (h : Grouped s closed current rest) (hc : current.map Admission.row = s.phase.gathered)
      (hr : rest.map Admission.row = s.phase.following ++ s.queue)
      (hf : s.phase.Fits s.policy s.now current)
  | ended (hp : s.phase = .ended none) (hn : ∀ a ∈ s.accepted, a.time ≤ s.now)
      (hs : s.store.sent = (s.policy.batches s.accepted).map (List.map Admission.row))

theorem Delivery.batched {s t : State α} {row : α} {current : Option (Batch α)}
    {taken : List (Call α)} {refused : Option (Call α)} {closed : List (List (Admission α))}
    {gathered rest : List (Admission α)} {a : Admission α}
    (h : Delivery s row current taken refused t) (hs : Prompt s)
    (hg : Grouped s closed gathered (a :: rest)) (ha : a.row = row)
    (hr : rest.map Admission.row = s.queue)
    (hc : gathered.map Admission.row = currentRows current)
    (hf : ∀ batch, current = some batch →
      s.policy.Gathers batch.openedAt gathered ∧ gathered.length < s.policy.fullSize) :
    Batched t := by
  have hnow : a.time = s.now := hg.fresh a List.mem_cons_self
  have hdelay : s.now + s.store.delay ≤ s.now := by rw [hs.delay]; exact Nat.le_refl _
  cases h with
  | notOpened hfail | notFirst _ hfail | notNext _ hfail =>
    rw [hs.fails] at hfail
    cases hfail
  | first =>
    have hnil : gathered = [] := List.map_eq_nil_iff.mp hc
    rw [hnil] at hg
    refine .running (hg.join.of_eq rfl rfl rfl rfl) ?_ hr ⟨?_, hdelay⟩
    · exact congrArg (fun row => [row]) ha
    · have hsingle := Policy.Gathers.single s.policy a
      rwa [hnow] at hsingle
  | @tooOld batch hx =>
    have hx' : batch.openedAt + s.policy.batchAge ≤ s.now := of_decide_eq_true hx
    obtain ⟨hgathers, -⟩ := hf batch rfl
    refine .running (hg.of_eq rfl rfl rfl rfl) hc ?_ ⟨hgathers, fun _ => .inr hx'⟩
    rw [List.map_cons, ha, hr]
    rfl
  | @next batch hx =>
    have hx' : s.now < batch.openedAt + s.policy.batchAge :=
      Nat.lt_of_not_le (of_decide_eq_false hx)
    obtain ⟨hgathers, hl⟩ := hf batch rfl
    have hopened : batch.openedAt ≤ s.now := by
      obtain ⟨first, others, rfl, hfirst⟩ := hgathers.exists_cons
      rw [← hfirst]
      apply hg.past first
      rw [hg.accepted]
      simp
    refine .running (hg.join.of_eq rfl rfl rfl rfl) ?_ hr ⟨?_, hdelay⟩
    · rw [List.map_append, hc, List.map_singleton, ha]
      rfl
    · exact hgathers.snoc hl (by rw [hnow]; exact hx') (by rw [hnow]; exact hopened)

namespace Batched

variable {s t : State α}

theorem of_spawn? {policy : Policy} (h : State.spawn? policy = some s) : Batched s := by
  obtain rfl := State.eq_fresh h
  have hg : Grouped (State.fresh policy : State α) [] [] [] :=
    ⟨rfl, rfl, nofun, nofun, nofun, fun _ _ => rfl⟩
  exact .running hg rfl rfl trivial

theorem loopMove (h : Batched s) (hp : Prompt s) (ho : s.InOrder) {taken : List (Call α)}
    {refused : Option (Call α)} (hm : LoopMove s taken refused t) : Batched t := by
  have he := hm.hasEnded_eq_false
  cases h with
  | ended hphase => simp [State.hasEnded, hphase] at he
  | @running closed current rest hg hc hr hf =>
    cases hm with
    | beginDrain => exact .running (hg.of_eq rfl rfl rfl rfl) hc hr hf
    | expire hphase _ _ _ hx =>
      rw [hphase] at hc hr hf
      have hx' := of_decide_eq_true hx
      exact .running (hg.of_eq rfl rfl rfl rfl) hc hr ⟨hf.1, fun _ => .inr hx'⟩
    | @take batch? row queue _ _ _ hphase _ _ _ _ hq hd =>
      rw [hphase] at hc hr hf
      rw [hq] at hr
      obtain ⟨a, rest, rfl, ha, hr⟩ := List.map_eq_cons_iff.mp hr
      have hk := s.keeps_take queue
      have hg' := hg.of_eq hk.policy hk.now hk.accepted (by rw [State.store_grantSlot])
      refine hd.batched (hp.of_keeps hk) hg' ha ?_ hc ?_
      · rw [State.queue_grantSlot]
        exact hr
      · rintro batch rfl
        rw [hk.policy]
        exact hf
    | @takeLate batch? row queue _ _ _ hphase _ hq hd =>
      rw [hphase] at hc hr hf
      rw [hq] at hr
      obtain ⟨a, rest, rfl, ha, hr⟩ := List.map_eq_cons_iff.mp hr
      have hg' : Grouped { s with queue } closed current (a :: rest) := hg.of_eq rfl rfl rfl rfl
      refine hd.batched ⟨hp.stalled, hp.delay, hp.failure⟩ hg' ha hr hc ?_
      rintro batch rfl
      exact hf
    | flush hphase =>
      rw [hphase] at hc hr hf
      exact .running (hg.of_eq rfl rfl rfl rfl) hc hr ⟨hf.1, fun hne => absurd rfl hne⟩
    -- the loop stops only when nothing is held back, so that all is in the closed batches
    | finish hphase _ hq =>
      rw [hphase] at hc hr
      rw [hq] at hr
      obtain rfl := List.map_eq_nil_iff.mp hc
      obtain rfl := List.map_eq_nil_iff.mp hr
      have hsent : s.store.sent =
          (s.policy.batches s.accepted).map (List.map Admission.row) := by
        rw [hg.batches_accepted, hg.sent, Policy.batches, List.append_nil]
      exact .ended rfl hg.past hsent
    | @fill row batch until_ hphase _ hl =>
      rw [hphase] at hc hr hf
      have hlen := Phase.length_of_appending hc
      have hfull : current.length = s.policy.fullSize := by
        have := hf.1.length
        have : s.policy.fullSize ≤ batch.rows.length + 1 := Nat.max_le.mpr ⟨by omega, hl⟩
        omega
      exact .running (hg.of_eq rfl rfl rfl rfl) hc hr ⟨hf.1, fun _ => .inl hfull⟩
    | outlive hphase _ _ hx =>
      rw [hphase] at hc hr hf
      have hx' := of_decide_eq_true hx
      exact .running (hg.of_eq rfl rfl rfl rfl) hc hr ⟨hf.1, fun _ => .inr hx'⟩
    | @join row batch until_ hphase _ hl =>
      rw [hphase] at hc hr hf
      have hlen := Phase.length_of_appending hc
      have hroom : current.length < s.policy.fullSize := by
        have : s.policy.batchSize ≤ s.policy.fullSize := Nat.le_max_right _ _
        omega
      exact .running (hg.of_eq rfl rfl rfl rfl) hc hr ⟨hf.1, hroom⟩
    | notSent _ _ hfail =>
      rw [hp.fails] at hfail
      cases hfail
    | @sent batch trigger age hphase =>
      rw [hphase] at hc hr hf
      have hsent : (s.kept batch trigger age).store.sent =
          s.store.sent ++ [current.map Admission.row] := by rw [hc]; rfl
      have hg' : Grouped { s.kept batch trigger age with phase := .idle none }
          (closed ++ [current]) [] rest := hg.close hf.1 (hf.2 (by simp)) rfl rfl rfl hsent
      exact .running hg' rfl hr trivial
    | @sentBefore batch trigger age row _ _ _ hphase _ _ hd =>
      rw [hphase] at hc hr hf
      obtain ⟨a, rest, rfl, ha, hr⟩ := List.map_eq_cons_iff.mp hr
      have hsent : (s.kept batch trigger age).store.sent =
          s.store.sent ++ [current.map Admission.row] := by rw [hc]; rfl
      have hg' : Grouped (s.kept batch trigger age) (closed ++ [current]) [] (a :: rest) :=
        hg.close hf.1 (hf.2 (by simp)) rfl rfl rfl hsent
      exact hd.batched (hp.of_keeps (s.keeps_kept ..)) hg' ha hr rfl (by simp)
    | @sentLast batch trigger age hphase =>
      unfold State.InOrder at ho
      rw [hphase] at hc hr hf ho
      rw [(ho.2 rfl).2] at hr
      obtain rfl := List.map_eq_nil_iff.mp hr
      have hsent : s.store.sent ++ [batch.rows] =
          (s.policy.batches s.accepted).map (List.map Admission.row) := by
        rw [hg.batches_accepted, hf.1.batches_eq, List.map_append, List.map_singleton, hc, hg.sent]
        rfl
      exact .ended rfl hg.past hsent

/-- A loop that waits for nothing but rows or the age of its batch has emptied the queue. -/
theorem idle_of_move {current : List (Admission α)} (h : Prompt s) (hm : s.move = none)
    (hf : s.phase.Fits s.policy s.now current) :
    s.queue = [] ∧ ∃ batch?, s.phase = .idle batch? := by
  rw [State.move_eq_none_iff] at hm
  cases hp : s.phase with
  | idle batch? =>
    refine ⟨?_, batch?, rfl⟩
    by_contra hq
    exact hm (State.canMove_of_queue_ne_nil hp hq)
  | appending =>
    rw [hp] at hf
    exact absurd (State.canMove_of_appending hp hf.2) hm
  | sending => exact absurd (State.canMove_of_sending hp h.stalled) hm
  | ended =>
    rw [hp] at hf
    exact hf.elim

theorem production (h : Batched s) {producer : Producer α} {others : List (Producer α)}
    (hp : Production s producer others t) : Batched t := by
  cases h with
  | ended hphase hn hs =>
    cases hp with
    | done | refused | waits => exact .ended hphase hn hs
    | accepted _ hc => simp [State.isClosed, State.hasEnded, hphase] at hc
  | @running closed current rest hg hc hr hf =>
    cases hp with
    | done | refused | waits => exact .running (hg.of_eq rfl rfl rfl rfl) hc hr hf
    | @accepted row rows =>
      have hg' : Grouped (s.accept producer row rows others) closed current
          (rest ++ [⟨s.now, producer.id, row⟩]) := by
        refine ⟨?_, hg.sent, ?_, ?_, hg.complete, hg.batches⟩
        · simp [State.accept, hg.accepted]
        · intro a ha
          rcases List.mem_append.mp ha with ha | ha
          · exact hg.past a ha
          · rw [List.mem_singleton.mp ha]
            exact Nat.le_refl _
        · intro a ha
          rcases List.mem_append.mp ha with ha | ha
          · exact hg.fresh a ha
          · rw [List.mem_singleton.mp ha]
            rfl
      refine .running hg' hc ?_ hf
      rw [List.map_append, hr, List.append_assoc]
      rfl

theorem clock (h : Batched s) (hp : Prompt s) (hm : s.move = none) {time : Nat}
    (ht : s.now ≤ time) : Batched { s with now := time } := by
  cases h with
  | ended hphase hn hs => exact .ended hphase (fun a ha => Nat.le_trans (hn a ha) ht) hs
  | @running closed current rest hg hc hr hf =>
    obtain ⟨hq, batch?, hphase⟩ := idle_of_move hp hm hf
    -- time passes only when every row has been taken, so none gets older outside of a batch
    have hnil : rest = [] := by
      rw [hphase, hq] at hr
      exact List.map_eq_nil_iff.mp hr
    have hg' : Grouped ({ s with now := time } : State α) closed current rest := by
      refine ⟨hg.accepted, hg.sent, ?_, ?_, ?_, ?_⟩
      · exact fun a ha => Nat.le_trans (hg.past a ha) ht
      · rw [hnil]
        nofun
      · intro batch hb
        obtain ⟨openedAt, hgathers, hdone⟩ := hg.complete batch hb
        exact ⟨openedAt, hgathers, hdone.imp_right fun hold => Nat.le_trans hold ht⟩
      · exact fun more hmore => hg.batches more fun a ha => Nat.le_trans ht (hmore a ha)
    refine .running hg' hc hr ?_
    show s.phase.Fits s.policy time current
    rw [hphase] at hf ⊢
    cases batch? <;> exact hf

theorem transition (h : Batched s) (hp : Prompt s) (ho : s.InOrder) {event : Event α}
    (ht : Transition s event t) : Batched t := by
  cases ht with
  | loop hm => exact h.loopMove hp ho hm
  | produce _ hprod => exact h.production hprod
  | clock hr hn => exact h.clock hp hr.1 hn
  | @step step ha =>
    cases step with
    | advance => cases ha
    | _ =>
      cases h with
      | ended hphase hn hs => exact .ended hphase hn hs
      | running hg hc hr hf => exact .running (hg.of_eq rfl rfl rfl rfl) hc hr hf

end Batched

theorem Path.batched {policy : Policy} {s t : State α} {events : List (Event α)}
    (hs : State.spawn? policy = some s) (h : Path s events t)
    (hplain : ∀ step ∈ events.filterMap Event.step?, step.Plain) : Prompt t ∧ Batched t := by
  induction h with
  | refl =>
    refine ⟨?_, .of_spawn? hs⟩
    obtain rfl := State.eq_fresh hs
    exact ⟨rfl, rfl, rfl⟩
  | @snoc _ u events event h ht ih =>
    rw [List.filterMap_append] at hplain
    obtain ⟨hp, hb⟩ := ih fun step hstep => hplain step (List.mem_append_left _ hstep)
    refine ⟨hp.transition ht fun step hstep => hplain step (List.mem_append_right _ ?_),
      hb.transition hp (h.inOrder hs) ht⟩
    exact List.mem_filterMap.mpr ⟨event, List.mem_cons_self, hstep⟩

end Pageviews.Writer
