import Pageviews.Proofs.Writer.Accounts
import Pageviews.Proofs.Writer.Backpressure
import Pageviews.Proofs.Writer.Patience

/-! Why batches are sent. Main statement: the trigger in the record of a batch is what the rows and
the age of the batch say, and only the last batch of a writer that was to end is sent for that. -/
namespace Pageviews.Writer

variable {α : Type} {s t : State α} {policy : Policy}

/-- The trigger of a batch is what its rows and its age say. -/
structure Labelled (policy : Policy) (r : Report) : Prop where
  size : r.trigger = .size ↔ r.rows = policy.fullSize
  age : r.trigger = .age ↔ r.rows < policy.fullSize ∧ policy.batchAge ≤ r.age
  shutdown : r.trigger = .shutdown ↔ r.rows < policy.fullSize ∧ r.age < policy.batchAge

namespace Labelled

theorem of_size {rows age : Nat} (h : rows = policy.fullSize) :
    Labelled policy ⟨rows, .size, age⟩ := by
  constructor <;> simp [h]

theorem of_age {rows age : Nat} (h : rows < policy.fullSize) (ha : policy.batchAge ≤ age) :
    Labelled policy ⟨rows, .age, age⟩ := by
  constructor <;> simp <;> omega

theorem of_shutdown {rows age : Nat} (h : rows < policy.fullSize) (ha : age < policy.batchAge) :
    Labelled policy ⟨rows, .shutdown, age⟩ := by
  constructor <;> simp <;> omega

end Labelled

/-- A batch that gets old while the loop waits is sent before anything else can happen, and one that
is being sent has the right trigger. -/
structure Timely (s : State α) : Prop where
  opened : ∀ batch, s.phase = .idle (some batch) → batch.openedAt ≤ s.now
  expired : ∀ batch, s.phase = .idle (some batch) → s.isExpired batch = true →
    s.ready = [] ∧ s.draining = false ∧ s.signalled = false ∧ s.isAbandoned = false
  appending : ∀ row batch until_, s.phase = .appending row batch until_ → batch.openedAt ≤ s.now
  sending : ∀ batch trigger age next, s.phase = .sending batch trigger age next →
    Labelled s.policy ⟨batch.rows.length, trigger, age⟩ ∧ (trigger = .shutdown ↔ next = .stop)

theorem State.age_of_isExpired {batch : Batch α} (hx : s.isExpired batch = true) :
    s.policy.batchAge ≤ s.now - batch.openedAt := by
  rw [State.isExpired, decide_eq_true_eq] at hx
  omega

theorem State.age_of_not_isExpired {batch : Batch α} (ho : batch.openedAt ≤ s.now)
    (hx : s.isExpired batch = false) : s.now - batch.openedAt < s.policy.batchAge := by
  rw [State.isExpired, decide_eq_false_iff_not] at hx
  omega

namespace Timely

theorem of_ended {failure : Option Failure} (h : t.phase = .ended failure) : Timely t := by
  constructor <;> rw [h] <;> nofun

theorem of_sending {batch : Batch α} {trigger : Trigger} {age : Nat} {next : Next α}
    (hp : t.phase = .sending batch trigger age next)
    (hl : Labelled t.policy ⟨batch.rows.length, trigger, age⟩)
    (hn : trigger = .shutdown ↔ next = .stop) : Timely t := by
  refine ⟨?_, ?_, ?_, fun batch' trigger' age' next' hp' => ?_⟩
  · rw [hp]; nofun
  · rw [hp]; nofun
  · rw [hp]; nofun
  · rw [hp] at hp'
    cases hp'
    exact ⟨hl, hn⟩

theorem of_appending {row : α} {batch : Batch α} {until_ : Nat}
    (hp : t.phase = .appending row batch until_) (ho : batch.openedAt ≤ t.now) : Timely t := by
  refine ⟨?_, ?_, fun row' batch' until' hp' => ?_, ?_⟩
  · rw [hp]; nofun
  · rw [hp]; nofun
  · rw [hp] at hp'
    cases hp'
    exact ho
  · rw [hp]; nofun

theorem of_unexpired {batch : Batch α} (hp : t.phase = .idle (some batch))
    (ho : batch.openedAt ≤ t.now) (hx : t.isExpired batch = false) : Timely t := by
  refine ⟨fun batch' hp' => ?_, fun batch' hp' hx' => ?_, ?_, ?_⟩
  · rw [hp] at hp'
    cases hp'
    exact ho
  · rw [hp] at hp'
    cases hp'
    rw [hx] at hx'
    cases hx'
  · rw [hp]; nofun
  · rw [hp]; nofun

theorem of_waiting (hp : t.phase = .idle none) : Timely t := by
  constructor <;> rw [hp] <;> nofun

end Timely

theorem Delivery.timely {row : α} {current : Option (Batch α)} {taken : List (Call α)}
    {refused : Option (Call α)} (h : Delivery s row current taken refused t)
    (ho : ∀ batch, current = some batch → batch.openedAt ≤ s.now)
    (hr : (currentRows current).length < s.policy.fullSize) : Timely t := by
  cases h with
  | notOpened | notFirst | notNext => exact .of_ended rfl
  | first => exact .of_appending rfl (Nat.le_refl _)
  | next => exact .of_appending rfl (ho _ rfl)
  | tooOld hx => exact .of_sending rfl (.of_age hr (State.age_of_isExpired hx)) (by simp)

theorem LoopMove.timely {taken : List (Call α)} {refused : Option (Call α)}
    (h : LoopMove s taken refused t) (hr : s.Roomy) (hs : Timely s) : Timely t := by
  cases h with
  | @beginDrain current hp hd hasked =>
    cases current with
    | none => exact .of_waiting hp
    | some batch =>
      refine .of_unexpired hp (hs.opened batch hp) ?_
      cases hx : s.isExpired batch with
      | false => exact hx
      | true =>
        obtain ⟨-, -, hsignalled, habandoned⟩ := hs.expired batch hp hx
        simp [hsignalled, habandoned] at hasked
  | expire hp _ _ _ hx =>
    exact .of_sending rfl (.of_age (hr.idle _ hp) (State.age_of_isExpired hx)) (by simp)
  | @take current _ queue _ _ _ hp _ _ _ _ _ h =>
    have hk := s.keeps_take queue
    refine h.timely ?_ ?_
    · rintro batch rfl
      rw [hk.now]
      exact hs.opened batch hp
    · rw [hk.policy]
      exact hr.idle current hp
  | takeLate hp _ _ h =>
    refine h.timely ?_ (hr.idle _ hp)
    rintro batch rfl
    exact hs.opened batch hp
  | @flush batch hp hd =>
    have hx : s.isExpired batch = false := by
      cases hx : s.isExpired batch with
      | false => rfl
      | true =>
        rw [(hs.expired batch hp hx).2.1] at hd
        cases hd
    have hage := State.age_of_not_isExpired (hs.opened batch hp) hx
    exact .of_sending rfl (.of_shutdown (hr.idle _ hp) hage) (by simp)
  | finish | notSent | sentLast => exact .of_ended rfl
  | @fill row batch _ hp _ hf =>
    have hheld := hr.held
    rw [hp] at hheld
    have hfull : s.policy.fullSize ≤ (batch.rows ++ [row]).length := by
      rw [List.length_append, List.length_singleton]
      exact Nat.max_le.mpr ⟨Nat.le_add_left 1 _, hf⟩
    exact .of_sending rfl (.of_size (Nat.le_antisymm hheld hfull)) (by simp)
  | @outlive row batch _ hp _ hf hx =>
    have hroom : (batch.rows ++ [row]).length < s.policy.fullSize := by
      rw [List.length_append, List.length_singleton]
      exact Nat.lt_of_lt_of_le hf (Nat.le_max_right _ _)
    exact .of_sending rfl (.of_age hroom (State.age_of_isExpired hx)) (by simp)
  | join hp _ _ hx =>
    have ho := hs.appending _ _ _ hp
    exact .of_unexpired rfl ho hx
  | sent => exact .of_waiting rfl
  | sentBefore _ _ _ h => exact h.timely nofun s.policy.one_le_fullSize

/-- The batch of a loop that waits is not old while anything else can happen. -/
theorem Timely.isExpired_eq_false (hs : Timely s) (hr : s.ready ≠ []) {batch : Batch α}
    (hp : s.phase = .idle (some batch)) : s.isExpired batch = false := by
  cases hx : s.isExpired batch with
  | false => rfl
  | true => exact absurd (hs.expired batch hp hx).1 hr

theorem State.IsAtRest.isExpired_eq_false (hr : s.IsAtRest) {batch : Batch α}
    (hp : s.phase = .idle (some batch)) : s.isExpired batch = false := by
  cases hx : s.isExpired batch with
  | false => rfl
  | true => exact absurd (State.canMove_of_expired hp hx) (State.move_eq_none_iff.mp hr.1)

/-- What leaves the loop and the clock alone while the batch is not old. -/
theorem Timely.of_unchanged (hs : Timely s) (hphase : t.phase = s.phase) (hnow : t.now = s.now)
    (hpolicy : t.policy = s.policy)
    (hx : ∀ batch, s.phase = .idle (some batch) → s.isExpired batch = false) : Timely t := by
  constructor
  · rw [hphase, hnow]; exact hs.opened
  · intro batch hp hexpired
    rw [hphase] at hp
    rw [State.isExpired, hpolicy, hnow] at hexpired
    rw [← State.isExpired, hx batch hp] at hexpired
    cases hexpired
  · rw [hphase, hnow]; exact hs.appending
  · rw [hphase, hpolicy]; exact hs.sending

theorem Timely.production (hs : Timely s) {producer : Producer α} {others : List (Producer α)}
    (hr : s.ready = producer :: others) (h : Production s producer others t) : Timely t := by
  have hx : ∀ batch, s.phase = .idle (some batch) → s.isExpired batch = false :=
    fun _ hp => hs.isExpired_eq_false (by simp [hr]) hp
  cases h <;> exact hs.of_unchanged rfl rfl rfl hx

/-- Time passes only while the loop has nothing to do, so that it will see an old batch first. -/
theorem Timely.clock (hs : Timely s) (hr : s.IsAtRest) {time : Nat} (hn : s.now ≤ time) :
    Timely ({ s with now := time } : State α) where
  opened batch hp := Nat.le_trans (hs.opened batch hp) hn
  expired batch hp _ := by
    have hstuck := State.move_eq_none_iff.mp hr.1
    refine ⟨hr.2, ?_, ?_, ?_⟩
    · by_contra hd
      exact hstuck (State.canMove_of_draining hp (by simpa using hd))
    · by_contra hsig
      exact hstuck (State.canMove_of_signalled hp (.inl (by simpa using hsig)))
    · by_contra hab
      exact hstuck (State.canMove_of_signalled hp (.inr ((Bool.not_eq_false _).mp hab)))
  appending row batch until_ hp := Nat.le_trans (hs.appending row batch until_ hp) hn
  sending := hs.sending

theorem Timely.perform (hs : Timely s) (hr : s.IsAtRest) {step : Step α}
    (ha : step.isAdvance = false) : Timely (s.perform step) := by
  have hx : ∀ batch, s.phase = .idle (some batch) → s.isExpired batch = false :=
    fun _ hp => hr.isExpired_eq_false hp
  cases step with
  | advance => cases ha
  | _ => exact hs.of_unchanged rfl rfl rfl hx

theorem CalmPath.timely {start : State α} {events : List (Event α)}
    (hs : State.spawn? policy = some start) (h : CalmPath start events s) : Timely s := by
  induction h with
  | refl =>
    obtain rfl := State.eq_fresh hs
    exact .of_waiting rfl
  | snoc h ht hr ih =>
    cases ht with
    | loop hm => exact hm.timely (h.path.roomy hs) ih
    | produce hready hp => exact ih.production hready hp
    | clock hrest hn => exact ih.clock hrest hn
    | step ha => exact ih.perform (hr nofun) ha

/-- What was told of the batches is true, and no batch comes after one that was sent because the
writer was to end. -/
structure Explained (s : State α) : Prop where
  labelled : ∀ r ∈ s.reports, Labelled s.policy r
  early : s.phase ≠ .ended none → ∀ r ∈ s.reports, r.trigger ≠ .shutdown
  last : ∀ r ∈ s.reports.dropLast, r.trigger ≠ .shutdown

theorem LoopMove.explained {taken : List (Call α)} {refused : Option (Call α)}
    (h : LoopMove s taken refused t) (ht : Timely s) (hs : Explained s) : Explained t := by
  obtain ⟨told, htelling, hn⟩ := h.tells
  have hreports := State.reports_eq hn
  have hearly : ∀ r ∈ s.reports, r.trigger ≠ .shutdown := by
    refine hs.early fun hp => ?_
    have hrunning := h.hasEnded_eq_false
    rw [State.hasEnded, hp] at hrunning
    cases hrunning
  cases htelling with
  | nothing | draining =>
    have hsame : t.reports = s.reports := hreports.trans (List.append_nil _)
    refine ⟨?_, fun _ => ?_, fun r hr => ?_⟩
    · rw [hsame, h.keeps.policy]
      exact hs.labelled
    · rwa [hsame]
    · rw [hsame] at hr
      exact hearly r (List.dropLast_subset _ hr)
  | @sent batch trigger age next hp _ _ _ hstop =>
    obtain ⟨hlabel, hnext⟩ := ht.sending batch trigger age next hp
    have hsnoc : t.reports = s.reports ++ [⟨batch.rows.length, trigger, age⟩] := hreports
    refine ⟨?_, fun hphase => ?_, ?_⟩
    · rw [hsnoc, h.keeps.policy]
      exact List.forall_mem_append.mpr ⟨hs.labelled, List.forall_mem_singleton.mpr hlabel⟩
    · rw [hsnoc]
      refine List.forall_mem_append.mpr ⟨hearly, List.forall_mem_singleton.mpr fun htrigger => ?_⟩
      exact hphase (hstop (hnext.mp htrigger))
    · rw [hsnoc, List.dropLast_concat]
      exact hearly

theorem CalmPath.explained {start : State α} {events : List (Event α)}
    (hs : State.spawn? policy = some start) (h : CalmPath start events s) : Explained s := by
  induction h with
  | refl =>
    obtain rfl := State.eq_fresh hs
    exact ⟨nofun, fun _ => nofun, nofun⟩
  | @snoc s t _ _ h ht _ ih =>
    have hpolicy : t.policy = s.policy := (Path.single ht).policy
    rcases ht.tells with ⟨_, _, hm⟩ | ⟨hn, hp, -⟩
    · exact hm.explained (h.timely hs) ih
    · have hsame : t.reports = s.reports := by rw [State.reports, hn, State.reports]
      refine ⟨?_, ?_, ?_⟩
      · rw [hsame, hpolicy]; exact ih.labelled
      · rw [hsame, hp]; exact ih.early
      · rw [hsame]; exact ih.last

/-- The queue is closed only for a shutdown, or when nobody is left. -/
theorem Path.excused {start : State α} {events : List (Event α)}
    (hs : State.spawn? policy = some start) (h : Path start events s) (hd : s.draining = true) :
    s.signalled = true ∨ s.isAbandoned = true := by
  refine h.invariant (P := fun t => t.draining = true → t.signalled = true ∨ t.isAbandoned = true)
    ?_ ?_ hd
  · intro s t event ht ih hd
    cases ht with
    | loop hm =>
      have hbefore := (hm.closes hd).elim ih id
      exact hbefore.imp (hm.keeps.signalled.trans ·) hm.keeps.isAbandoned
    | produce hr hp =>
      -- where a producer can go on, somebody is left
      have hleft : s.isAbandoned ≠ true := by
        intro ha
        rw [State.ready_of_isAbandoned ha] at hr
        cases hr
      cases hp <;> exact .inl ((ih hd).resolve_right hleft)
    | clock => exact ih hd
    | @step step ha hw =>
      cases step with
      | advance => cases ha
      | shutdown => exact .inl rfl
      | drop =>
        refine (ih hd).imp_right fun habandoned => ?_
        exact State.isAbandoned_iff.mpr ⟨rfl, (State.isAbandoned_iff.mp habandoned).2⟩
      | store =>
        refine (ih hd).imp_right fun habandoned => ?_
        rw [(State.isAbandoned_iff.mp habandoned).1] at hw
        cases hw rfl
      | _ => exact ih hd
  · obtain rfl := State.eq_fresh hs
    exact nofun

theorem Path.step_mem {start : State α} {events : List (Event α)}
    (hs : State.spawn? policy = some start) (h : Path start events s) :
    (s.signalled = true → .shutdown ∈ events.filterMap Event.step?) ∧
      (s.held = false → .drop ∈ events.filterMap Event.step?) := by
  induction h with
  | refl =>
    obtain rfl := State.eq_fresh hs
    exact ⟨nofun, nofun⟩
  | @snoc s t events event _ ht ih =>
    rw [List.filterMap_append]
    have hold (hsignalled : t.signalled = s.signalled) (hheld : t.held = s.held) :
        (t.signalled = true →
          .shutdown ∈ events.filterMap Event.step? ++ [event].filterMap Event.step?) ∧
        (t.held = false →
          .drop ∈ events.filterMap Event.step? ++ [event].filterMap Event.step?) := by
      rw [hsignalled, hheld]
      exact ⟨fun hs => List.mem_append_left _ (ih.1 hs), fun hh => List.mem_append_left _ (ih.2 hh)⟩
    cases ht with
    | loop hm => exact hold hm.keeps.signalled hm.keeps.held
    | produce _ hp => cases hp <;> exact hold rfl rfl
    | clock => exact hold rfl rfl
    | @step step ha =>
      cases step with
      | advance => cases ha
      | shutdown =>
        exact ⟨fun _ => by simp [Event.step?], fun hh => List.mem_append_left _ (ih.2 hh)⟩
      | drop => exact ⟨fun hs => List.mem_append_left _ (ih.1 hs), fun _ => by simp [Event.step?]⟩
      | _ => exact hold rfl rfl

/-- What the records of the batches say after some steps. -/
structure Labels (policy : Policy) (steps : List (Step α)) (s : State α) : Prop where
  records : s.sentRecords = s.reports.map Report.toRecord
  rows : List.Forall₂ (fun report rows => report.rows = rows.length) s.reports s.store.sent
  labelled : ∀ r ∈ s.reports, Labelled policy r
  last : ∀ r ∈ s.reports.dropLast, r.trigger ≠ .shutdown
  parting : ∀ r ∈ s.reports, r.trigger = .shutdown →
    s.phase = .ended none ∧ (.shutdown ∈ steps ∨ .drop ∈ steps ∧ s.roster = [])

theorem CalmPath.labels {start : State α} {events : List (Event α)}
    (hs : State.spawn? policy = some start) (h : CalmPath start events s) :
    Labels policy (events.filterMap Event.step?) s := by
  have hexplained := h.explained hs
  refine ⟨s.sentRecords_eq, (h.path.accounts hs).rows_eq, ?_, hexplained.last, ?_⟩
  · rw [← h.path.policy_eq hs]
    exact hexplained.labelled
  · intro r hr htrigger
    have hphase : s.phase = .ended none := by
      by_contra hne
      exact hexplained.early hne r hr htrigger
    have horder := h.path.inOrder hs
    unfold State.InOrder at horder
    rw [hphase] at horder
    obtain ⟨hsignalled, hheld⟩ := h.path.step_mem hs
    refine ⟨hphase, (h.path.excused hs (horder.2 rfl)).imp hsignalled fun ha => ?_⟩
    obtain ⟨hgiven, hroster⟩ := State.isAbandoned_iff.mp ha
    exact ⟨hheld hgiven, hroster⟩

theorem Labels.of_filter {steps : List (Step α)}
    (h : Labels policy (steps.filter (!·.isAdvance)) s) : Labels policy steps s := by
  refine ⟨h.records, h.rows, h.labelled, h.last, fun r hr htrigger => ?_⟩
  obtain ⟨hphase, hcause⟩ := h.parting r hr htrigger
  exact ⟨hphase, hcause.imp List.mem_of_mem_filter (And.imp_left List.mem_of_mem_filter)⟩

/-- The trigger that is logged for a batch is the true one: the batch is full, or it is old, or it is
neither and the last of a writer that was to end. Steps are taken while nothing else can happen, as
between any two answers, so that one at the very end of a batch's age finds it sent. -/
theorem trigger_tells_cause {start : State α} (hs : State.spawn? policy = some start) :
    (∀ events s, CalmPath start events s → Labels policy (events.filterMap Event.step?) s) ∧
    ∀ (steps : List (Step α)) (states : List (State α)) (i : Nat) (s : State α),
      start.run? steps = some states → states[i]? = some s →
      Labels policy (steps.take (i + 1)) s := by
  constructor
  · exact fun events s h => h.labels hs
  · intro steps states i s hrun hi
    obtain ⟨-, events, h, he⟩ :=
      State.exists_calmPath_of_run? (State.isAtRest_of_spawn? hs) hrun hi
    have hlabels := h.labels hs
    rw [he] at hlabels
    exact hlabels.of_filter

/-- A batch that gets old, one that an append outlives, a full one, and the last, for a shutdown. -/
theorem trigger_tells_cause_four : ∃ (start s : State Nat) (states : List (State Nat)),
    State.spawn? ⟨4, 2, 5⟩ = some start ∧
    start.run? [.store [7], .advance 5, .slowAppends 6, .store [8], .advance 6, .slowAppends 0,
      .store [9, 1, 2], .advance 4, .shutdown] = some states ∧ states[8]? = some s ∧
    s.reports.map (fun r => (r.rows, r.trigger, r.age)) =
      [(1, .age, 5), (1, .age, 6), (2, .size, 0), (1, .shutdown, 4)] ∧
    Labels ⟨4, 2, 5⟩ [.store [7], .advance 5, .slowAppends 6, .store [8], .advance 6,
      .slowAppends 0, .store [9, 1, 2], .advance 4, .shutdown] s := by
  have heval : ((State.spawn? ⟨4, 2, 5⟩).bind fun start =>
      (start.run? [.store [7], .advance 5, .slowAppends 6, .store [8], .advance 6, .slowAppends 0,
        .store [9, 1, 2], .advance 4, .shutdown]).bind fun states =>
          states[8]?.map fun (s : State Nat) => s.reports.map fun r => (r.rows, r.trigger, r.age)) =
      some [(1, .age, 5), (1, .age, 6), (2, .size, 0), (1, .shutdown, 4)] := by cbv
  obtain ⟨start, states, s, hs, hrun, hi, heval⟩ := State.exists_answer_of_spawn? heval
  obtain ⟨-, h⟩ := trigger_tells_cause hs
  exact ⟨start, s, states, hs, hrun, hi, heval, h _ _ 8 s hrun hi⟩

end Pageviews.Writer
