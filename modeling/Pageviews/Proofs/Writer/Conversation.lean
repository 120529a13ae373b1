import Pageviews.Proofs.Writer.FailStop

/-! What the store sees of a run. Main statement: one batch after the other, each opened, filled row
by row and sent whole; the loop knows the open one as the store does, and is not late with it. -/
namespace Pageviews.Writer

variable {α : Type}

def Event.taken : Event α → List (Call α)
  | loop taken _ => taken
  | _ => []

/-- An event with its time, and how long the store takes for an append that begins then. -/
structure Stamped (α : Type) where
  event : Event α
  time : Nat
  delay : Nat

/-- A run in which every event has its time. -/
inductive Journal (start : State α) : List (Stamped α) → State α → Prop where
  | start : Journal start [] start
  | snoc {s t : State α} {journal : List (Stamped α)} {event : Event α}
      (h : Journal start journal s) (ht : Transition s event t) :
      Journal start (journal ++ [⟨event, s.now, s.store.delay⟩]) t

theorem Journal.path {start s : State α} {journal : List (Stamped α)}
    (h : Journal start journal s) : Path start (journal.map Stamped.event) s := by
  induction h with
  | start => exact .refl start
  | snoc _ ht ih => simpa using ih.snoc ht

theorem Path.exists_journal {start s : State α} {events : List (Event α)}
    (h : Path start events s) :
    ∃ journal, Journal start journal s ∧ journal.map Stamped.event = events := by
  induction h with
  | refl => exact ⟨[], .start, rfl⟩
  | snoc _ ht ih =>
    obtain ⟨journal, hj, rfl⟩ := ih
    exact ⟨_, hj.snoc ht, by simp⟩

structure Taken (α : Type) where
  call : Call α
  time : Nat
  delay : Nat

def Stamped.taken (e : Stamped α) : List (Taken α) := e.event.taken.map (⟨·, e.time, e.delay⟩)

def taken (journal : List (Stamped α)) : List (Taken α) := journal.flatMap Stamped.taken

theorem taken_concat (journal : List (Stamped α)) (e : Stamped α) :
    taken (journal ++ [e]) = taken journal ++ e.taken := by
  rw [taken, List.flatMap_append, List.flatMap_singleton, taken]

def sentBy (calls : List (Taken α)) : List (List α) := calls.filterMap (·.call.sent?)

def openedBy (calls : List (Taken α)) : Nat := calls.countP (·.call.isOpen)

theorem Event.sent_eq (event : Event α) : event.sent = event.taken.filterMap Call.sent? := by
  cases event <;> rfl

theorem Event.opened_eq (event : Event α) : event.opened = event.taken.countP Call.isOpen := by
  cases event <;> rfl

theorem sentBy_taken (journal : List (Stamped α)) :
    sentBy (taken journal) = (journal.map Stamped.event).flatMap Event.sent := by
  induction journal with
  | nil => rfl
  | cons e journal ih =>
    rw [List.map_cons, List.flatMap_cons, ← ih, e.event.sent_eq]
    simp [sentBy, taken, Stamped.taken, List.filterMap_map]

theorem openedBy_taken (journal : List (Stamped α)) :
    openedBy (taken journal) = total ((journal.map Stamped.event).map Event.opened) := by
  induction journal with
  | nil => rfl
  | cons e journal ih =>
    rw [List.map_cons, List.map_cons, total, ← ih, e.event.opened_eq]
    simp [openedBy, taken, Stamped.taken, List.countP_map, Function.comp_def]

/-- The calls account for what is in the store. -/
theorem Journal.store {policy : Policy} {start s : State α} {journal : List (Stamped α)}
    (hs : State.spawn? policy = some start) (h : Journal start journal s) :
    s.store.sent = sentBy (taken journal) ∧ s.store.opened = openedBy (taken journal) := by
  obtain ⟨hsent, hopened⟩ := h.path.store
  obtain rfl := State.eq_fresh hs
  rw [hsent, hopened, sentBy_taken, openedBy_taken]
  exact ⟨List.nil_append _, Nat.zero_add _⟩

/-- The answers of a run lie on a journal with just the steps that were taken. -/
theorem State.exists_journal_of_run? {start s : State α} {steps : List (Step α)}
    {states : List (State α)} {i : Nat} (hr : start.IsAtRest)
    (hrun : start.run? steps = some states) (hi : states[i]? = some s) :
    ∃ journal, Journal start journal s ∧
      (journal.map Stamped.event).filterMap Event.step? =
        (steps.take (i + 1)).filter (!·.isAdvance) := by
  obtain ⟨-, events, hp, he⟩ := exists_path_of_run? hr hrun hi
  obtain ⟨journal, hj, rfl⟩ := hp.exists_journal
  exact ⟨journal, hj, he⟩

/-- A batch that the store has opened and that has not been sent. -/
structure Seen (α : Type) where
  openedAt : Nat
  rows : List α
  /-- How long the last append takes, once there is one. -/
  delay : Nat

/-- The calls make sense one after the other, and leave at most one batch open: a batch is opened
when there is none, rows are appended to what it holds, and all of it is sent. -/
inductive Conversation : List (Taken α) → Option (Seen α) → Prop where
  | silence : Conversation [] none
  | openBatch {calls : List (Taken α)} {time delay : Nat} (h : Conversation calls none) :
      Conversation (calls ++ [⟨.openBatch, time, delay⟩]) (some ⟨time, [], 0⟩)
  | append {calls : List (Taken α)} {seen : Seen α} {row : α} {time delay : Nat}
      (h : Conversation calls (some seen)) :
      Conversation (calls ++ [⟨.append seen.rows row, time, delay⟩])
        (some ⟨seen.openedAt, seen.rows ++ [row], delay⟩)
  | send {calls : List (Taken α)} {seen : Seen α} {time delay : Nat}
      (h : Conversation calls (some seen)) :
      Conversation (calls ++ [⟨.send seen.rows, time, delay⟩]) none

def Seen.after (seen : Option (Seen α)) (taken : Taken α) : Option (Seen α) :=
  match taken.call with
  | .openBatch => some ⟨taken.time, [], 0⟩
  | .append _ row => seen.map fun b => ⟨b.openedAt, b.rows ++ [row], taken.delay⟩
  | .send _ => none

namespace Conversation

variable {calls earlier : List (Taken α)} {seen other : Option (Seen α)}

theorem eq_foldl (h : Conversation calls seen) : seen = calls.foldl Seen.after none := by
  induction h with
  | silence => rfl
  | openBatch | send =>
    rw [List.foldl_append]
    rfl
  | append _ ih =>
    rw [List.foldl_append, ← ih]
    rfl

/-- The calls tell which batch is open. -/
theorem unique (h : Conversation calls seen) (h' : Conversation calls other) : seen = other :=
  h.eq_foldl.trans h'.eq_foldl.symm

theorem exists_of_prefix_concat {call : Taken α} (h : Conversation (calls ++ [call]) seen)
    (hcalls : earlier <+: calls → ∃ before, Conversation earlier before)
    (hp : earlier <+: calls ++ [call]) : ∃ before, Conversation earlier before := by
  rcases List.prefix_concat_iff.mp hp with rfl | hp
  · exact ⟨_, h⟩
  · exact hcalls hp

theorem exists_of_prefix (h : Conversation calls seen) (hp : earlier <+: calls) :
    ∃ before, Conversation earlier before := by
  induction h with
  | silence =>
    rw [List.prefix_nil.mp hp]
    exact ⟨_, .silence⟩
  | openBatch h ih => exact h.openBatch.exists_of_prefix_concat ih hp
  | append h ih => exact h.append.exists_of_prefix_concat ih hp
  | send h ih => exact h.send.exists_of_prefix_concat ih hp

theorem openedBy_eq (h : Conversation calls seen) :
    openedBy calls = (sentBy calls).length + if seen.isSome then 1 else 0 := by
  induction h with
  | silence => rfl
  | openBatch _ ih | append _ ih | send _ ih =>
    simp only [openedBy, sentBy, List.countP_append, List.filterMap_append, List.length_append] at *
    rw [ih]
    rfl

end Conversation

/-- A batch of the loop is what the store has seen of it. -/
structure Batch.IsSeen (batch : Batch α) (now : Nat) (seen : Seen α) : Prop where
  rows : seen.rows = batch.rows
  openedAt : seen.openedAt = batch.openedAt
  past : seen.openedAt ≤ now

theorem Batch.IsSeen.later {batch : Batch α} {now time : Nat} {seen : Seen α}
    (h : batch.IsSeen now seen) (hn : now ≤ time) : batch.IsSeen time seen :=
  ⟨h.rows, h.openedAt, Nat.le_trans h.past hn⟩

namespace State

/-- The store has seen the batch that a waiting loop has, which is not past its age. -/
def Holds (s : State α) (current : Option (Batch α)) (seen : Option (Seen α)) : Prop :=
  match current with
  | none => seen = none
  | some batch =>
    ∃ b, seen = some b ∧ batch.IsSeen s.now b ∧ s.now ≤ b.openedAt + s.policy.batchAge

/-- What the store has seen is what the loop is at, and the loop is not late by more than the append
that goes on. A batch that was lost stays open for the store. -/
def Shows (s : State α) (seen : Option (Seen α)) : Prop :=
  match s.phase with
  | .idle current => s.Holds current seen
  | .appending row batch until_ =>
    ∃ b, seen = some b ∧ ({ batch with rows := batch.rows ++ [row] } : Batch α).IsSeen s.now b ∧
      until_ ≤ b.openedAt + s.policy.batchAge + b.delay
  | .sending batch _ age _ =>
    ∃ b, seen = some b ∧ batch.IsSeen s.now b ∧ age ≤ s.policy.batchAge + b.delay
  | .ended (some .appending) | .ended (some (.sending _)) => seen ≠ none
  | .ended _ => seen = none

theorem Shows.idle {s : State α} {seen : Option (Seen α)} (h : s.Shows seen)
    {current : Option (Batch α)} (hp : s.phase = .idle current) : s.Holds current seen := by
  unfold Shows at h
  rwa [hp] at h

theorem Shows.appending {s : State α} {seen : Option (Seen α)} (h : s.Shows seen) {row : α}
    {batch : Batch α} {until_ : Nat} (hp : s.phase = .appending row batch until_) :
    ∃ b, seen = some b ∧ ({ batch with rows := batch.rows ++ [row] } : Batch α).IsSeen s.now b ∧
      until_ ≤ b.openedAt + s.policy.batchAge + b.delay := by
  unfold Shows at h
  rwa [hp] at h

theorem Shows.sending {s : State α} {seen : Option (Seen α)} (h : s.Shows seen)
    {batch : Batch α} {trigger : Trigger} {age : Nat} {next : Next α}
    (hp : s.phase = .sending batch trigger age next) :
    ∃ b, seen = some b ∧ batch.IsSeen s.now b ∧ age ≤ s.policy.batchAge + b.delay := by
  unfold Shows at h
  rwa [hp] at h

theorem Shows.of_eq {s t : State α} {seen : Option (Seen α)} (h : s.Shows seen)
    (hp : t.phase = s.phase) (hn : t.now = s.now) (ha : t.policy = s.policy) : t.Shows seen := by
  unfold Shows Holds at *
  rw [hp, hn, ha]
  exact h

/-- The clock stops at the deadline of a batch that waits. -/
theorem Shows.clock {s : State α} {seen : Option (Seen α)} {time : Nat} (h : s.Shows seen)
    (hn : s.now ≤ time) (hdue : ∀ due, s.due? = some due → time ≤ due) :
    ({ s with now := time } : State α).Shows seen := by
  cases hp : s.phase with
  | idle current =>
    have hidle := h.idle hp
    cases current with
    | none => exact hidle
    | some batch =>
      obtain ⟨b, rfl, hb, -⟩ := hidle
      have hlate := hdue (batch.openedAt + s.policy.batchAge) (by rw [due?, hp])
      exact ⟨b, rfl, hb.later hn, hb.openedAt ▸ hlate⟩
  | appending row batch until_ =>
    obtain ⟨b, rfl, hb, hlate⟩ := h.appending hp
    exact ⟨b, rfl, hb.later hn, hlate⟩
  | sending batch trigger age next =>
    obtain ⟨b, rfl, hb, hage⟩ := h.sending hp
    exact ⟨b, rfl, hb.later hn, hage⟩
  | ended failure =>
    unfold Shows at h
    rw [hp] at h
    rcases failure with _ | failure
    · exact h
    · cases failure <;> exact h

/-- A batch begins to be sent at its deadline at the latest. -/
theorem shows_startSend {s : State α} {batch : Batch α} {trigger : Trigger} {next : Next α}
    {seen : Option (Seen α)} (h : s.Holds (some batch) seen) :
    (s.startSend batch trigger next).Shows seen := by
  obtain ⟨b, rfl, hb, hn⟩ := h
  refine ⟨b, rfl, hb, ?_⟩
  have ho := hb.openedAt
  show s.now - batch.openedAt ≤ s.policy.batchAge + b.delay
  omega

end State

theorem Delivery.shows {s t : State α} {row : α} {current : Option (Batch α)}
    {taken : List (Call α)} {refused : Option (Call α)} {calls : List (Taken α)}
    {seen : Option (Seen α)} (h : Delivery s row current taken refused t)
    (hc : Conversation calls seen) (hs : s.Holds current seen) :
    ∃ after, Conversation (calls ++ taken.map (⟨·, s.now, s.store.delay⟩)) after ∧
      t.Shows after := by
  cases h with
  | notOpened =>
    refine ⟨seen, ?_, hs⟩
    simpa using hc
  | notFirst =>
    obtain rfl : seen = none := hs
    exact ⟨_, hc.openBatch, nofun⟩
  | first =>
    obtain rfl : seen = none := hs
    refine ⟨some ⟨s.now, [row], s.store.delay⟩, ?_, ?_⟩
    · have hopen : Conversation (calls ++ [⟨.openBatch, s.now, s.store.delay⟩])
          (some ⟨s.now, [], 0⟩) := hc.openBatch
      simpa using hopen.append
    · refine ⟨_, rfl, ⟨rfl, rfl, Nat.le_refl _⟩, ?_⟩
      show s.now + s.store.delay ≤ s.now + s.policy.batchAge + s.store.delay
      omega
  | tooOld =>
    refine ⟨seen, ?_, State.shows_startSend hs⟩
    simpa using hc
  | notNext =>
    obtain ⟨b, rfl, -⟩ := hs
    refine ⟨some b, ?_, nofun⟩
    simpa using hc
  | next =>
    obtain ⟨b, rfl, hb, hn⟩ := hs
    refine ⟨some ⟨b.openedAt, b.rows ++ [row], s.store.delay⟩, ?_, ?_⟩
    · rw [List.map_singleton, ← hb.rows]
      exact hc.append
    · refine ⟨_, rfl, ⟨?_, hb.openedAt, hb.past⟩, ?_⟩
      · show b.rows ++ [row] = _
        rw [hb.rows]
      · show s.now + s.store.delay ≤ b.openedAt + s.policy.batchAge + s.store.delay
        omega

/-- A move shows the store nothing that does not make sense. -/
theorem LoopMove.shows {s t : State α} {taken : List (Call α)} {refused : Option (Call α)}
    {calls : List (Taken α)} {seen : Option (Seen α)} (h : LoopMove s taken refused t)
    (hc : Conversation calls seen) (ho : s.InOrder) (hs : s.Shows seen) :
    ∃ after, Conversation (calls ++ taken.map (⟨·, s.now, s.store.delay⟩)) after ∧
      t.Shows after := by
  have hsilent : t.Shows seen → taken = [] → ∃ after,
      Conversation (calls ++ taken.map (⟨·, s.now, s.store.delay⟩)) after ∧ t.Shows after := by
    rintro ht rfl
    exact ⟨seen, by simpa using hc, ht⟩
  cases h with
  | beginDrain => exact hsilent (hs.of_eq rfl rfl rfl) rfl
  | expire hp | flush hp => exact hsilent (State.shows_startSend (hs.idle hp)) rfl
  | @take current _ queue _ _ _ hp _ _ _ _ _ h =>
    have hk := s.keeps_take queue
    have hs' : ({ s with queue } : State α).grantSlot.Holds current seen := by
      have hidle := hs.idle hp
      unfold State.Holds at hidle ⊢
      rwa [hk.now, hk.policy]
    have hd := h.shows hc hs'
    rwa [hk.now, hk.delay] at hd
  | takeLate hp _ _ h => exact h.shows hc (hs.idle hp)
  | finish hp =>
    have hnone : seen = none := hs.idle hp
    exact hsilent hnone rfl
  | fill hp hn | outlive hp hn =>
    -- the append is never late, so the time is the one at which it was due
    have hnow := ho.appending hp
    obtain ⟨b, rfl, hb, hdue⟩ := hs.appending hp
    have hopened := hb.openedAt
    refine hsilent ⟨b, rfl, hb, ?_⟩ rfl
    show s.now - _ ≤ s.policy.batchAge + b.delay
    omega
  | @join _ batch _ hp _ _ hx =>
    obtain ⟨b, rfl, hb, -⟩ := hs.appending hp
    have hopened : b.openedAt = batch.openedAt := hb.openedAt
    have hyoung : ¬ batch.openedAt + s.policy.batchAge ≤ s.now := of_decide_eq_false hx
    refine hsilent ⟨b, rfl, hb, ?_⟩ rfl
    show s.now ≤ b.openedAt + s.policy.batchAge
    omega
  | notSent hp =>
    obtain ⟨b, rfl, -⟩ := hs.sending hp
    exact hsilent nofun rfl
  | sent hp | sentLast hp =>
    obtain ⟨b, rfl, hb, -⟩ := hs.sending hp
    refine ⟨none, ?_, rfl⟩
    rw [List.map_singleton, ← hb.rows]
    exact hc.send
  | @sentBefore batch trigger age row _ _ _ hp _ _ h =>
    obtain ⟨b, rfl, hb, -⟩ := hs.sending hp
    have hsend : Conversation (calls ++ [⟨.send batch.rows, s.now, s.store.delay⟩]) none := by
      rw [← hb.rows]
      exact hc.send
    obtain ⟨after, hafter, ht⟩ := h.shows hsend rfl
    refine ⟨after, ?_, ht⟩
    rw [List.append_assoc] at hafter
    exact hafter

theorem Transition.shows {s t : State α} {event : Event α} {calls : List (Taken α)}
    {seen : Option (Seen α)} (h : Transition s event t) (hc : Conversation calls seen)
    (ho : s.InOrder) (hs : s.Shows seen) :
    ∃ after, Conversation (calls ++ (Stamped.mk event s.now s.store.delay).taken) after ∧
      t.Shows after := by
  have hsilent : t.Shows seen → ∃ after, Conversation (calls ++ []) after ∧ t.Shows after := by
    intro ht
    exact ⟨seen, by simpa using hc, ht⟩
  cases h with
  | loop h => exact h.shows hc ho hs
  | produce _ h => cases h <;> exact hsilent (hs.of_eq rfl rfl rfl)
  | clock _ hn hdue => exact hsilent (hs.clock hn hdue)
  | @step step ha =>
    cases step with
    | advance => cases ha
    | _ => exact hsilent (hs.of_eq rfl rfl rfl)

theorem Journal.conversation {policy : Policy} {start s : State α} {journal : List (Stamped α)}
    (hs : State.spawn? policy = some start) (h : Journal start journal s) :
    ∃ seen, Conversation (taken journal) seen ∧ s.Shows seen := by
  induction h with
  | start =>
    obtain rfl := State.eq_fresh hs
    exact ⟨none, .silence, rfl⟩
  | snoc h ht ih =>
    obtain ⟨seen, hc, hshows⟩ := ih
    have hnext := ht.shows hc (h.path.inOrder hs) hshows
    rwa [taken_concat]

end Pageviews.Writer
