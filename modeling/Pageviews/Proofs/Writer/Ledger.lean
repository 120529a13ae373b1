import Pageviews.Proofs.Writer.Producers

/-! Where the accepted rows are. Main statement: each is in one place, in the order in which they
were accepted, and none is lost while the writer does not fail. -/
namespace Pageviews.Writer

variable {α : Type}

namespace Phase

def openRows : Phase α → List α
  | idle current => currentRows current
  | appending _ batch _ => batch.rows
  | sending batch _ _ _ => batch.rows
  | ended _ => []

def inHand : Phase α → List α
  | appending row _ _ => [row]
  | sending _ _ _ (.append row) => [row]
  | _ => []

/-- The rows that are neither in the queue nor in the store. -/
def held : Phase α → List α
  | idle current => currentRows current
  | appending row batch _ => batch.rows ++ [row]
  | sending batch _ _ (.append row) => batch.rows ++ [row]
  | sending batch _ _ _ => batch.rows
  | ended _ => []

theorem held_eq (phase : Phase α) : phase.held = phase.openRows ++ phase.inHand := by
  cases phase with
  | sending batch trigger age next => cases next <;> simp [held, openRows, inHand]
  | _ => simp [held, openRows, inHand]

end Phase

namespace State

def acceptedRows (s : State α) : List α := s.accepted.map Admission.row

def Balanced (s : State α) (held : List α) : Prop :=
  s.acceptedRows = s.store.sent.flatten ++ held ++ s.queue

/-- Where the accepted rows are at each phase of the loop. -/
def Ledger (s : State α) : Prop :=
  match s.phase with
  | .ended none => s.store.sent.flatten = s.acceptedRows
  | .ended (some _) => s.store.sent.flatten <+: s.acceptedRows
  | phase => s.Balanced phase.held

theorem Balanced.prefix {s : State α} {held : List α} (h : s.Balanced held) :
    s.store.sent.flatten <+: s.acceptedRows :=
  ⟨held ++ s.queue, by rw [h, List.append_assoc]⟩

theorem store_grantSlot (s : State α) : s.grantSlot.store = s.store := by
  unfold grantSlot
  split <;> rfl

theorem balanced_take {s : State α} {row : α} {queue held : List α}
    (hq : s.queue = row :: queue) (h : s.Balanced held) :
    ({ s with queue } : State α).Balanced (held ++ [row]) := by
  have h' : s.acceptedRows = s.store.sent.flatten ++ held ++ (row :: queue) := hq ▸ h
  show s.acceptedRows = s.store.sent.flatten ++ (held ++ [row]) ++ queue
  simpa using h'

theorem balanced_grantSlot {s : State α} {held : List α} (h : s.Balanced held) :
    s.grantSlot.Balanced held := by
  unfold Balanced acceptedRows
  rw [(keeps_grantSlot s).accepted, store_grantSlot, queue_grantSlot]
  exact h

theorem balanced_kept {s : State α} {batch : Batch α} {trigger : Trigger} {age : Nat}
    {held : List α} (h : s.Balanced (batch.rows ++ held)) :
    (s.kept batch trigger age).Balanced held := by
  show s.acceptedRows = (s.store.sent ++ [batch.rows]).flatten ++ held ++ s.queue
  rw [h]
  simp

end State

theorem Delivery.ledger {s t : State α} {row : α} {current : Option (Batch α)}
    {taken : List (Call α)} {refused : Option (Call α)}
    (h : Delivery s row current taken refused t)
    (hb : s.Balanced (currentRows current ++ [row])) : t.Ledger := by
  cases h with
  | notOpened | notFirst | notNext => exact hb.prefix
  | first | tooOld | next => exact hb

/-- The rows of a batch that a call fails are the first of those that are lost. -/
theorem Delivery.lost {s t : State α} {row : α} {current : Option (Batch α)}
    {taken : List (Call α)} {call : Call α} (h : Delivery s row current taken (some call) t)
    (hb : s.Balanced (currentRows current ++ [row])) :
    t.store.sent.flatten ++ call.batchRows <+: t.acceptedRows := by
  cases h with
  | notOpened | notFirst | notNext =>
    refine ⟨[row] ++ s.queue, Eq.trans ?_ hb.symm⟩
    simp [Call.batchRows, currentRows, State.stop, State.wakeAll, Store.Memory.countOpened]

namespace State

theorem Ledger.balanced {s : State α} (h : s.Ledger) (he : s.hasEnded = false) :
    s.Balanced s.phase.held := by
  unfold Ledger at h
  cases hp : s.phase with
  | ended failure => simp [hasEnded, hp] at he
  | _ => simpa only [hp] using h

end State

/-- No batch is sent empty, no append is late, and the last batch is sent when the queue is closed
and empty. -/
def State.InOrder (s : State α) : Prop :=
  match s.phase with
  | .idle none => True
  | .idle (some batch) => batch.rows ≠ []
  | .appending _ _ until_ => s.now ≤ until_
  | .sending batch _ _ next => batch.rows ≠ [] ∧ (next = .stop → s.draining = true ∧ s.queue = [])
  | .ended failure => s.queue = [] ∧ (failure = none → s.draining = true)

namespace State.InOrder

variable {s : State α} {batch : Batch α}

theorem idle (h : s.InOrder) (hp : s.phase = .idle (some batch)) : batch.rows ≠ [] := by
  unfold State.InOrder at h
  rwa [hp] at h

theorem appending (h : s.InOrder) {row : α} {until_ : Nat}
    (hp : s.phase = .appending row batch until_) : s.now ≤ until_ := by
  unfold State.InOrder at h
  rwa [hp] at h

theorem sending (h : s.InOrder) {trigger : Trigger} {age : Nat} {next : Next α}
    (hp : s.phase = .sending batch trigger age next) : batch.rows ≠ [] := by
  unfold State.InOrder at h
  rw [hp] at h
  exact h.1

end State.InOrder

theorem Delivery.inOrder {s t : State α} {row : α} {current : Option (Batch α)}
    {taken : List (Call α)} {refused : Option (Call α)}
    (h : Delivery s row current taken refused t)
    (hc : ∀ batch, current = some batch → batch.rows ≠ []) : t.InOrder := by
  cases h with
  | notOpened | notFirst | notNext => exact ⟨rfl, nofun⟩
  | first | next => exact Nat.le_add_right s.now s.store.delay
  | tooOld => exact ⟨hc _ rfl, nofun⟩

namespace LoopMove

variable {s t : State α} {taken : List (Call α)} {refused : Option (Call α)}

theorem inOrder (h : LoopMove s taken refused t) (hs : s.InOrder) : t.InOrder := by
  unfold State.InOrder at hs
  cases h with
  | @beginDrain current hp =>
    rw [hp] at hs
    unfold State.InOrder State.beginDrain State.wakeAll
    cases current <;> simp only [hp]
    exact hs
  | expire hp =>
    rw [hp] at hs
    exact ⟨hs, nofun⟩
  | take hp _ _ _ _ _ h | takeLate hp _ _ h =>
    rw [hp] at hs
    apply h.inOrder
    rintro batch rfl
    exact hs
  | flush hp hd hq =>
    rw [hp] at hs
    exact ⟨hs, fun _ => ⟨hd, hq⟩⟩
  | finish _ hd => exact ⟨rfl, fun _ => hd⟩
  | fill | outlive => exact ⟨by simp, nofun⟩
  | join => exact List.append_ne_nil_of_right_ne_nil _ (List.cons_ne_nil _ _)
  | notSent => exact ⟨rfl, nofun⟩
  | sent => exact trivial
  | sentBefore _ _ _ h => exact h.inOrder nofun
  | sentLast hp =>
    rw [hp] at hs
    exact ⟨rfl, fun _ => (hs.2 rfl).1⟩

theorem ledger (h : LoopMove s taken refused t) (ho : s.InOrder) (hs : s.Ledger) : t.Ledger := by
  have hb := hs.balanced h.hasEnded_eq_false
  cases h with
  | beginDrain hp =>
    rw [hp] at hb
    unfold State.Ledger State.beginDrain State.wakeAll
    simp only [hp]
    exact hb
  | expire hp | flush hp | fill hp | outlive hp | join hp =>
    rw [hp] at hb
    exact hb
  | take hp _ _ _ _ hq h =>
    rw [hp] at hb
    exact h.ledger (State.balanced_grantSlot (State.balanced_take hq hb))
  | takeLate hp _ hq h =>
    rw [hp] at hb
    exact h.ledger (State.balanced_take hq hb)
  | finish hp _ hq =>
    unfold State.Balanced at hb
    rw [hp, hq] at hb
    have ha : s.acceptedRows = s.store.sent.flatten := by
      simpa [Phase.held, currentRows] using hb
    exact ha.symm
  | notSent => exact hb.prefix
  | @sent batch trigger age hp =>
    rw [hp] at hb
    have hk : (s.kept batch trigger age).Balanced [] :=
      State.balanced_kept (by simpa [Phase.held] using hb)
    exact hk
  | sentBefore hp _ _ h =>
    rw [hp] at hb
    exact h.ledger (State.balanced_kept hb)
  | @sentLast batch trigger age hp =>
    unfold State.InOrder at ho
    rw [hp] at hb ho
    have hk : (s.kept batch trigger age).Balanced [] :=
      State.balanced_kept (by simpa [Phase.held] using hb)
    have hq : (s.kept batch trigger age).queue = [] := (ho.2 rfl).2
    have ha : s.acceptedRows = (s.store.sent ++ [batch.rows]).flatten := by
      unfold State.Balanced at hk
      rw [hq, List.append_nil, List.append_nil] at hk
      exact hk
    exact ha.symm

/-- When a call is refused, the rows of its batch are the first of those that are lost. -/
theorem lost {call : Call α} (h : LoopMove s taken (some call) t) (hs : s.Ledger) :
    t.store.sent.flatten ++ call.batchRows <+: t.acceptedRows := by
  have hb := hs.balanced h.hasEnded_eq_false
  cases h with
  | take hp _ _ _ _ hq h =>
    rw [hp] at hb
    exact h.lost (State.balanced_grantSlot (State.balanced_take hq hb))
  | takeLate hp _ hq h =>
    rw [hp] at hb
    exact h.lost (State.balanced_take hq hb)
  | @notSent batch _ _ next hp =>
    have hh : s.phase.held = batch.rows ++ s.phase.inHand := by rw [Phase.held_eq, hp]; rfl
    rw [hh] at hb
    refine ⟨s.phase.inHand ++ s.queue, Eq.trans ?_ hb.symm⟩
    simp [Call.batchRows, State.stop, State.wakeAll]
  | sentBefore hp _ _ h =>
    rw [hp] at hb
    exact h.lost (State.balanced_kept hb)

end LoopMove

namespace Transition

variable {s t : State α} {event : Event α}

theorem inOrder (h : Transition s event t) (hs : s.InOrder) : t.InOrder := by
  cases h with
  | loop h => exact h.inOrder hs
  | produce _ h =>
    cases h with
    | done | refused | waits => exact hs
    | accepted _ hc =>
      obtain ⟨hd, he⟩ := Bool.or_eq_false_iff.mp hc
      unfold State.InOrder State.accept at *
      cases hp : s.phase with
      | idle current =>
        rw [hp] at hs
        cases current <;> exact hs
      | appending => simpa only [hp] using hs
      | sending => simp_all
      | ended => simp [State.hasEnded, hp] at he
  | @clock time _ _ hdue =>
    unfold State.InOrder at *
    cases hp : s.phase with
    | idle current =>
      rw [hp] at hs
      cases current <;> exact hs
    | appending row batch until_ => exact hdue until_ (by rw [State.due?, hp])
    | _ => simpa only [hp] using hs
  | @step step ha =>
    cases step with
    | advance => cases ha
    | _ => exact hs

theorem ledger (h : Transition s event t) (ho : s.InOrder) (hs : s.Ledger) : t.Ledger := by
  cases h with
  | loop h => exact h.ledger ho hs
  | @produce _ producer others _ h =>
    cases h with
    | done | refused | waits => exact hs
    | @accepted row rows hr hc =>
      -- a writer that has ended accepts nothing, so the balance still holds
      have he : s.hasEnded = false := (Bool.or_eq_false_iff.mp hc).2
      have hb : (s.accept producer row rows others).Balanced s.phase.held := by
        have hb := hs.balanced he
        unfold State.Balanced State.acceptedRows at hb ⊢
        simp only [State.accept, List.map_append, hb, List.append_assoc]
        rfl
      unfold State.Ledger
      cases hp : s.phase with
      | ended failure => simp [State.hasEnded, hp] at he
      | _ => simpa only [State.accept, hp] using hb
  | clock => exact hs
  | @step step ha =>
    cases step with
    | advance => cases ha
    | _ => exact hs

end Transition

theorem Path.inOrder {policy : Policy} {s t : State α} {events : List (Event α)}
    (hs : State.spawn? policy = some s) (h : Path s events t) : t.InOrder := by
  apply h.invariant (fun ht => ht.inOrder)
  obtain rfl := State.eq_fresh hs
  exact trivial

theorem Path.ledger_of {s t : State α} {events : List (Event α)} (h : Path s events t)
    (ho : s.InOrder) (hs : s.Ledger) : t.Ledger := by
  induction h with
  | refl => exact hs
  | snoc h ht ih => exact ht.ledger (h.invariant (fun ht => ht.inOrder) ho) ih

theorem Path.ledger {policy : Policy} {s t : State α} {events : List (Event α)}
    (hs : State.spawn? policy = some s) (h : Path s events t) : t.Ledger := by
  apply h.ledger_of (Path.inOrder hs (.refl s))
  obtain rfl := State.eq_fresh hs
  exact rfl

/-- What has become of the rows of the producers that were started by some steps. -/
structure Delivered (steps : List (Step α)) (s : State α) : Prop where
  running : s.hasEnded = false →
    s.acceptedRows = s.store.sent.flatten ++ s.phase.openRows ++ s.phase.inHand ++ s.queue
  written : s.phase = .ended none → s.store.sent.flatten = s.acceptedRows
  failed : ∀ failure, s.phase = .ended (some failure) → s.store.sent.flatten <+: s.acceptedRows
  /-- A row that a producer was refused, and those after it, were not accepted. -/
  stored : ∀ e ∈ s.ended, ∃ rows, (programs steps)[e.id]? = some rows ∧
    s.acceptedOf e.id = rows.take e.stored ∧ (e.complete = false ↔ e.stored < rows.length)

theorem Path.delivered {policy : Policy} {s t : State α} {events : List (Event α)}
    (hs : State.spawn? policy = some s) (h : Path s events t) :
    Delivered (events.filterMap Event.step?) t := by
  have hl := h.ledger hs
  refine ⟨fun he => ?_, fun hp => ?_, fun failure hp => ?_, fun e he => ?_⟩
  · have hb := hl.balanced he
    rw [State.Balanced, Phase.held_eq] at hb
    simpa only [List.append_assoc] using hb
  · unfold State.Ledger at hl
    simpa only [hp] using hl
  · unfold State.Ledger at hl
    simpa only [hp] using hl
  · obtain ⟨left, hrows, hstored, hcomplete⟩ := (h.accounted hs).ended e he
    refine ⟨_, hrows, ?_, ?_⟩
    · rw [hstored, List.take_left]
    · rw [List.length_append, ← hstored, ← Bool.not_eq_true, hcomplete,
        ← List.length_eq_zero_iff]
      omega

theorem State.exists_spawn? {policy : Policy} (hc : policy.capacity ≤ Policy.maxSlots) :
    ∃ s : State α, spawn? policy = some s := by
  have hs : policy.slots ≤ Policy.maxSlots := Nat.max_le.mpr ⟨by decide, hc⟩
  exact ⟨_, if_pos hs⟩

/-- A writer can be made with just the capacities that are not too large. -/
theorem State.exists_spawn?_iff {policy : Policy} :
    (∃ s : State α, spawn? policy = some s) ↔ policy.capacity ≤ Policy.maxSlots := by
  refine ⟨fun ⟨s, hs⟩ => ?_, State.exists_spawn?⟩
  unfold spawn? at hs
  split at hs
  · next hslots => exact (Nat.max_le.mp hslots).2
  · cases hs

/-- Every accepted row is delivered exactly once and in order: this holds at every point of every
run, and so in every state that the writer answers with. -/
theorem delivered_once_in_order {policy : Policy} (hc : policy.capacity ≤ Policy.maxSlots) :
    ∃ start : State α, State.spawn? policy = some start ∧
      (∀ events s, Path start events s → Delivered (events.filterMap Event.step?) s) ∧
      ∀ steps states, start.run? steps = some states →
        ∀ i s, states[i]? = some s → Delivered (steps.take (i + 1)) s := by
  obtain ⟨start, hs⟩ := State.exists_spawn? (α := α) hc
  refine ⟨start, hs, fun events s h => h.delivered hs, ?_⟩
  intro steps states hrun i s hi
  obtain ⟨-, events, hp, he⟩ := State.exists_path_of_run? (State.isAtRest_of_spawn? hs) hrun hi
  have hd := hp.delivered hs
  rw [he] at hd
  refine ⟨hd.running, hd.written, hd.failed, ?_⟩
  simpa only [programs_filter] using hd.stored

theorem delivered_while_stalled : ∃ (start s : State Nat) (states : List (State Nat)),
    State.spawn? ⟨1, 2, 10⟩ = some start ∧
    start.run? [.stall, .store [7, 8, 9, 7]] = some states ∧ states[1]? = some s ∧
    (s.store.sent, s.phase.openRows, s.queue) = ([], [7, 8], [9]) ∧
    Delivered [.stall, .store [7, 8, 9, 7]] s := by
  have heval : ((State.spawn? ⟨1, 2, 10⟩).bind fun start =>
      (start.run? [.stall, .store [7, 8, 9, 7]]).bind fun states =>
        states[1]?.map fun s => (s.store.sent, s.phase.openRows, s.queue)) =
      some ([], [7, 8], [9]) := by cbv
  obtain ⟨start, states, s, hs, hrun, hi, hrows⟩ := State.exists_answer_of_spawn? heval
  obtain ⟨fresh, hfresh, -, h⟩ := @delivered_once_in_order Nat ⟨1, 2, 10⟩ (by decide)
  obtain rfl : start = fresh := Option.some.inj (hs.symm.trans hfresh)
  exact ⟨start, s, states, hs, hrun, hi, hrows, h _ _ hrun 1 s hi⟩

end Pageviews.Writer
