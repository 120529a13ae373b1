import Pageviews.Proofs.Writer.Conversation

/-! How old batches get. Main statement: a batch that has reached its age gets no more rows, and is
sent at that age, or when the append is done that went on then. -/
namespace Pageviews.Writer

variable {α : Type} {s t : State α}

theorem Delivery.append_in_time {row : α} {current : Option (Batch α)} {taken : List (Call α)}
    {refused : Option (Call α)} (h : Delivery s row current taken refused t) {rows : List α}
    {last : α} (ha : .append rows last ∈ taken ++ refused.toList) (hne : rows ≠ []) :
    ∃ batch, current = some batch ∧ batch.rows = rows ∧ s.isExpired batch = false := by
  cases h with
  | notOpened | tooOld => simp at ha
  | notFirst | first =>
    simp only [Option.toList, List.append_nil, List.cons_append, List.nil_append, List.mem_cons,
      List.not_mem_nil, Call.append.injEq, reduceCtorEq, false_or, or_false] at ha
    exact absurd ha.1 hne
  | notNext hx | next hx =>
    simp only [Option.toList, List.append_nil, List.nil_append, List.mem_singleton,
      Call.append.injEq] at ha
    exact ⟨_, rfl, ha.1.symm, hx⟩

/-- The loop appends to a batch with rows only while it waits and the batch is not too old. -/
theorem LoopMove.append_in_time {taken : List (Call α)} {refused : Option (Call α)}
    (h : LoopMove s taken refused t) {rows : List α} {last : α}
    (ha : .append rows last ∈ taken ++ refused.toList) (hne : rows ≠ []) :
    ∃ batch, s.phase = .idle (some batch) ∧ batch.rows = rows ∧ s.isExpired batch = false := by
  cases h with
  | @take _ _ queue _ _ _ hp _ _ _ _ _ h =>
    obtain ⟨batch, rfl, hrows, hx⟩ := h.append_in_time ha hne
    have hk := s.keeps_take queue
    rw [State.isExpired, hk.policy, hk.now] at hx
    exact ⟨batch, hp, hrows, hx⟩
  | takeLate hp _ _ h =>
    obtain ⟨batch, rfl, hrows, hx⟩ := h.append_in_time ha hne
    exact ⟨batch, hp, hrows, hx⟩
  | sentBefore _ _ _ h =>
    -- the row goes to a new batch
    obtain ⟨_, hnone, -⟩ := h.append_in_time (by simpa using ha) hne
    cases hnone
  | _ => simp at ha

theorem Delivery.sending_eq {row : α} {current : Option (Batch α)} {taken : List (Call α)}
    {refused : Option (Call α)} (h : Delivery s row current taken refused t) {batch : Batch α}
    {trigger : Trigger} {age : Nat} {next : Next α}
    (ht : t.phase = .sending batch trigger age next) :
    taken = [] ∧ current = some batch ∧ age = s.now - batch.openedAt := by
  cases h with
  | tooOld =>
    cases ht
    exact ⟨rfl, rfl, rfl⟩
  | _ => cases ht

/-- A send begins without any call, and with the age that the batch then has. -/
theorem LoopMove.sending_eq {taken : List (Call α)} {refused : Option (Call α)}
    (h : LoopMove s taken refused t) {batch : Batch α} {trigger : Trigger} {age : Nat}
    {next : Next α} (ht : t.phase = .sending batch trigger age next) :
    taken = [] ∧ age = s.now - batch.openedAt := by
  cases h with
  | beginDrain hp =>
    rw [show s.phase = _ from ht] at hp
    cases hp
  | @take _ _ queue _ _ _ _ _ _ _ _ _ h =>
    obtain ⟨htaken, -, hage⟩ := h.sending_eq ht
    rw [(s.keeps_take queue).now] at hage
    exact ⟨htaken, hage⟩
  | takeLate _ _ _ h =>
    obtain ⟨htaken, -, hage⟩ := h.sending_eq ht
    exact ⟨htaken, hage⟩
  | sentBefore _ _ _ h =>
    obtain ⟨-, hnone, -⟩ := h.sending_eq ht
    cases hnone
  | expire | flush | fill | outlive =>
    cases ht
    exact ⟨rfl, rfl⟩
  | _ => cases ht

theorem Delivery.batchSent_mem {row : α} {current : Option (Batch α)} {taken : List (Call α)}
    {refused : Option (Call α)} (h : Delivery s row current taken refused t) {rows age : Nat}
    {trigger : Trigger} (hn : .batchSent rows trigger age ∈ t.notices) :
    .batchSent rows trigger age ∈ s.notices := by
  cases h with
  | notOpened | notFirst | notNext => simpa [State.stop] using hn
  | first | tooOld | next => exact hn

theorem State.batchSent_mem_kept {batch : Batch α} {trigger trigger' : Trigger} {next : Next α}
    {rows age age' : Nat} (hp : s.phase = .sending batch trigger' age' next)
    (hn : .batchSent rows trigger age ∈ (s.kept batch trigger' age').notices) :
    .batchSent rows trigger age ∈ s.notices ∨
      s.phase = .sending batch trigger age next ∧ batch.rows.length = rows := by
  rcases List.mem_append.mp hn with hn | hn
  · exact .inl hn
  · cases List.mem_singleton.mp hn
    exact .inr ⟨hp, rfl⟩

/-- The writer tells of a batch when the store has taken it. -/
theorem LoopMove.batchSent_mem {taken : List (Call α)} {refused : Option (Call α)}
    (h : LoopMove s taken refused t) {rows age : Nat} {trigger : Trigger}
    (hn : .batchSent rows trigger age ∈ t.notices) :
    .batchSent rows trigger age ∈ s.notices ∨
      ∃ batch next more, s.phase = .sending batch trigger age next ∧ batch.rows.length = rows ∧
        taken = .send batch.rows :: more := by
  cases h with
  | beginDrain => exact .inl (by simpa [State.beginDrain] using hn)
  | @take _ _ queue _ _ _ _ _ _ _ _ _ h =>
    have hn' := h.batchSent_mem hn
    unfold State.grantSlot at hn'
    split at hn' <;> exact .inl hn'
  | takeLate _ _ _ h => exact .inl (h.batchSent_mem hn)
  | finish | notSent => exact .inl (by simpa [State.stop] using hn)
  | sent hp =>
    rcases State.batchSent_mem_kept hp hn with hn | ⟨hp', hlen⟩
    · exact .inl hn
    · exact .inr ⟨_, _, _, hp', hlen, rfl⟩
  | sentBefore hp _ _ h =>
    rcases State.batchSent_mem_kept hp (h.batchSent_mem hn) with hn | ⟨hp', hlen⟩
    · exact .inl hn
    · exact .inr ⟨_, _, _, hp', hlen, rfl⟩
  | sentLast hp =>
    rcases State.batchSent_mem_kept hp (by simpa [State.stop] using hn) with hn | ⟨hp', hlen⟩
    · exact .inl hn
    · exact .inr ⟨_, _, _, hp', hlen, rfl⟩
  | expire | flush | fill | outlive | join => exact .inl hn

/-- Whether the loop may still add rows to its batch. -/
def Phase.isFilling : Phase α → Bool
  | idle _ => true
  | appending .. => true
  | _ => false

/-- A batch that the writer tells of is one that was sent, not later than the last append to it
allows. -/
def Logged (policy : Policy) (calls : List (Taken α)) (rows age : Nat) : Prop :=
  ∃ earlier b time delay, earlier ++ [⟨.send b.rows, time, delay⟩] <+: calls ∧
    Conversation earlier (some b) ∧ b.rows.length = rows ∧ age ≤ policy.batchAge + b.delay

theorem Logged.mono {policy : Policy} {calls more : List (Taken α)} {rows age : Nat}
    (h : Logged policy calls rows age) (hp : calls <+: more) : Logged policy more rows age := by
  obtain ⟨earlier, b, time, delay, hcalls, hb⟩ := h
  exact ⟨earlier, b, time, delay, hcalls.trans hp, hb⟩

/-- How old batches get at a point of a run, and in the next move of the loop. -/
structure Punctual (policy : Policy) (calls : List (Taken α)) (seen : Option (Seen α))
    (s : State α) : Prop where
  conversation : Conversation calls seen
  /-- All appends but the first of a batch begin in time, those that the store refuses as well. -/
  append : ∀ taken refused t, LoopMove s taken refused t → ∀ rows row,
    .append rows row ∈ taken ++ refused.toList → rows ≠ [] →
    ∃ b, seen = some b ∧ b.rows = rows ∧ b.openedAt ≤ s.now ∧
      s.now - b.openedAt < policy.batchAge
  send : ∀ taken refused t, LoopMove s taken refused t → ∀ batch trigger age next,
    t.phase = .sending batch trigger age next →
    ∃ b, seen = some b ∧ b.rows = batch.rows ∧ b.openedAt ≤ s.now ∧
      age = s.now - b.openedAt ∧ age ≤ policy.batchAge + b.delay
  filling : s.phase.isFilling = true → ∀ b, seen = some b →
    b.openedAt ≤ s.now ∧ s.now - b.openedAt ≤ policy.batchAge + b.delay
  logged : ∀ rows trigger age, .batchSent rows trigger age ∈ s.notices →
    Logged policy calls rows age

namespace State.Shows

variable {seen : Option (Seen α)} {taken : List (Call α)} {refused : Option (Call α)}

theorem append_in_time (h : s.Shows seen) (hm : LoopMove s taken refused t) {rows : List α}
    {row : α} (ha : .append rows row ∈ taken ++ refused.toList) (hne : rows ≠ []) :
    ∃ b, seen = some b ∧ b.rows = rows ∧ b.openedAt ≤ s.now ∧
      s.now - b.openedAt < s.policy.batchAge := by
  obtain ⟨batch, hp, hrows, hx⟩ := hm.append_in_time ha hne
  obtain ⟨b, rfl, hb, -⟩ := h.idle hp
  have ho := hb.openedAt
  have hpast := hb.past
  have hx' : ¬ batch.openedAt + s.policy.batchAge ≤ s.now := of_decide_eq_false hx
  exact ⟨b, rfl, hb.rows.trans hrows, hpast, by omega⟩

theorem send_in_time (h : s.Shows seen) {calls : List (Taken α)} (hc : Conversation calls seen)
    (ho : s.InOrder) (hm : LoopMove s taken refused t) {batch : Batch α} {trigger : Trigger}
    {age : Nat} {next : Next α} (ht : t.phase = .sending batch trigger age next) :
    ∃ b, seen = some b ∧ b.rows = batch.rows ∧ b.openedAt ≤ s.now ∧
      age = s.now - b.openedAt ∧ age ≤ s.policy.batchAge + b.delay := by
  obtain ⟨rfl, hage⟩ := hm.sending_eq ht
  obtain ⟨after, hafter, hshows⟩ := hm.shows hc ho h
  rw [List.map_nil, List.append_nil] at hafter
  obtain rfl := hc.unique hafter
  obtain ⟨b, rfl, hb, hle⟩ := hshows.sending ht
  rw [hm.keeps.now] at hb
  rw [hm.keeps.policy] at hle
  exact ⟨b, rfl, hb.rows, hb.past, by rw [hb.openedAt, hage], hle⟩

theorem filling_in_time {b : Seen α} (h : s.Shows (some b)) (ho : s.InOrder)
    (hf : s.phase.isFilling = true) :
    b.openedAt ≤ s.now ∧ s.now - b.openedAt ≤ s.policy.batchAge + b.delay := by
  cases hp : s.phase with
  | idle current =>
    have hidle := h.idle hp
    cases current with
    | none => cases hidle
    | some batch =>
      obtain ⟨_, hsome, hb, hn⟩ := hidle
      cases hsome
      exact ⟨hb.past, by omega⟩
  | appending row batch until_ =>
    have hnow := ho.appending hp
    obtain ⟨_, hsome, hb, hdue⟩ := h.appending hp
    cases hsome
    exact ⟨hb.past, by omega⟩
  | _ =>
    rw [hp] at hf
    cases hf

end State.Shows

theorem Journal.logged {policy : Policy} {start : State α} {journal : List (Stamped α)}
    (hs : State.spawn? policy = some start) (h : Journal start journal s) {rows age : Nat}
    {trigger : Trigger} (hn : .batchSent rows trigger age ∈ s.notices) :
    Logged policy (taken journal) rows age := by
  induction h with
  | start =>
    rw [State.eq_fresh hs] at hn
    cases List.mem_singleton.mp hn
  | @snoc s t journal event h ht ih =>
    rw [taken_concat]
    have hold : ∀ more, .batchSent rows trigger age ∈ s.notices →
        Logged policy (taken journal ++ more) rows age :=
      fun more hn => (ih hn).mono (List.prefix_append _ more)
    cases ht with
    | loop hm =>
      rcases hm.batchSent_mem hn with hn | ⟨batch, next, more, hp, hlen, rfl⟩
      · exact hold _ hn
      · obtain ⟨seen, hc, hshows⟩ := h.conversation hs
        obtain ⟨b, rfl, hb, hle⟩ := hshows.sending hp
        rw [h.path.policy_eq hs] at hle
        refine ⟨taken journal, b, s.now, s.store.delay, ?_, hc, by rw [hb.rows, hlen], hle⟩
        rw [hb.rows]
        exact (List.prefix_append_right_inj _).mpr ⟨_, rfl⟩
    | produce _ hp => cases hp <;> exact hold _ hn
    | clock => exact hold _ hn
    | @step step ha =>
      cases step with
      | advance => cases ha
      | _ => exact hold _ hn

theorem Journal.punctual {policy : Policy} {start : State α} {journal : List (Stamped α)}
    (hs : State.spawn? policy = some start) (h : Journal start journal s) :
    ∃ seen, Punctual policy (taken journal) seen s := by
  obtain ⟨seen, hc, hshows⟩ := h.conversation hs
  have ho := h.path.inOrder hs
  have hpolicy := h.path.policy_eq hs
  refine ⟨seen, hc, ?_, ?_, ?_, fun rows trigger age => h.logged hs⟩
  · intro calls refused t hm rows row ha hne
    rw [← hpolicy]
    exact hshows.append_in_time hm ha hne
  · intro calls refused t hm batch trigger age next ht
    rw [← hpolicy]
    exact hshows.send_in_time hc ho hm ht
  · rintro hf b rfl
    rw [← hpolicy]
    exact hshows.filling_in_time ho hf

/-- No batch is older when it is sent than its age and the last append to it allow, and none that
has reached its age gets another row: neither what comes in, nor what is left to drain, nor the
batch before it can hold a batch open for longer. -/
theorem late_by_one_append {policy : Policy} {start : State α}
    (hs : State.spawn? policy = some start) :
    (∀ journal s, Journal start journal s → ∃ seen, Punctual policy (taken journal) seen s) ∧
    ∀ (steps : List (Step α)) (states : List (State α)) (i : Nat) (s : State α),
      start.run? steps = some states → states[i]? = some s →
      ∃ journal seen, Journal start journal s ∧
        (journal.map Stamped.event).filterMap Event.step? =
          (steps.take (i + 1)).filter (!·.isAdvance) ∧
        Punctual policy (taken journal) seen s := by
  constructor
  · exact fun journal s h => h.punctual hs
  · intro steps states i s hrun hi
    obtain ⟨journal, hj, he⟩ :=
      State.exists_journal_of_run? (State.isAtRest_of_spawn? hs) hrun hi
    obtain ⟨seen, hpunctual⟩ := hj.punctual hs
    exact ⟨journal, seen, hj, he, hpunctual⟩

/-- Slow appends, the second of which lasts beyond the age of the batch, and a stall that outlasts
both: the third row goes to a batch of its own. -/
theorem late_by_one_append_stalled : ∃ (start s : State Nat) (states : List (State Nat))
    (calls : List (Taken Nat)) (seen : Option (Seen Nat)),
    State.spawn? ⟨4, 10, 5⟩ = some start ∧
    start.run? [.slowAppends 3, .store [7, 8, 9], .stall, .advance 20, .resume] = some states ∧
    states[4]? = some s ∧
    (s.phase, s.store.sent) = (.appending 9 ⟨[], 20⟩ 23, [[7, 8]]) ∧
    .batchSent 2 .age 6 ∈ s.notices ∧ Punctual ⟨4, 10, 5⟩ calls seen s := by
  have heval : ((State.spawn? ⟨4, 10, 5⟩).bind fun start =>
      (start.run? [.slowAppends 3, .store [7, 8, 9], .stall, .advance 20, .resume]).bind
        fun states => states[4]?.map fun s => ((s.phase, s.store.sent), s.notices)) =
      some ((.appending 9 ⟨[], 20⟩ 23, [[7, 8]]),
        [.configured ⟨4, 10, 5⟩, .batchSent 2 .age 6]) := by cbv
  obtain ⟨start, states, s, hs, hrun, hi, heval⟩ := State.exists_answer_of_spawn? heval
  obtain ⟨hphase, hnotices⟩ := Prod.mk.inj heval
  obtain ⟨-, h⟩ := late_by_one_append hs
  obtain ⟨journal, seen, -, -, hpunctual⟩ := h _ _ 4 s hrun hi
  exact ⟨start, s, states, _, seen, hs, hrun, hi, hphase, by simp [hnotices], hpunctual⟩

end Pageviews.Writer
