import Pageviews.Proofs.Writer.Backpressure

/-! What the writer sends when no batch gets old. Main statement: the accepted rows in full batches,
the last of which may be shorter, whatever has held the store or the producers up. -/
namespace Pageviews.Writer

variable {α : Type}

namespace Policy

/-- Rows cut into full batches; the last takes what is left. -/
def cut (p : Policy) : List α → List (List α)
  | [] => []
  | row :: rows => (row :: rows).take p.fullSize :: p.cut ((row :: rows).drop p.fullSize)
termination_by rows => rows.length
decreasing_by
  have := p.one_le_fullSize
  rw [List.length_drop, List.length_cons]
  omega

theorem cut_append_of_length_eq (p : Policy) {batch : List α} (hb : batch.length = p.fullSize)
    (rows : List α) : p.cut (batch ++ rows) = batch :: p.cut rows := by
  have hone := p.one_le_fullSize
  cases batch with
  | nil =>
    rw [List.length_nil] at hb
    omega
  | cons row others =>
    rw [List.cons_append, cut, ← List.cons_append, List.take_left' hb, List.drop_left' hb]

theorem cut_of_length_le (p : Policy) {batch : List α} (hne : batch ≠ [])
    (hb : batch.length ≤ p.fullSize) : p.cut batch = [batch] := by
  obtain ⟨row, others, rfl⟩ := List.exists_cons_of_ne_nil hne
  rw [cut, List.take_of_length_le hb, List.drop_of_length_le hb, cut]

/-- Full batches are cut out again, whatever follows them. -/
theorem cut_flatten_append (p : Policy) {batches : List (List α)}
    (hb : ∀ batch ∈ batches, batch.length = p.fullSize) (rows : List α) :
    p.cut (batches.flatten ++ rows) = batches ++ p.cut rows := by
  induction batches with
  | nil => rfl
  | cons batch batches ih =>
    obtain ⟨hbatch, hbatches⟩ := List.forall_mem_cons.mp hb
    rw [List.flatten_cons, List.append_assoc, p.cut_append_of_length_eq hbatch, ih hbatches]
    rfl

theorem flatten_cut (p : Policy) (rows : List α) : (p.cut rows).flatten = rows := by
  fun_induction cut p rows with
  | case1 => rfl
  | case2 row rows ih => rw [List.flatten_cons, ih, List.take_append_drop]

theorem cut_eq_nil_iff (p : Policy) {rows : List α} : p.cut rows = [] ↔ rows = [] := by
  constructor
  · intro h
    rw [← p.flatten_cut rows, h]
    rfl
  · rintro rfl
    rw [cut]

/-- Only the last batch may have room left. -/
theorem length_of_mem_dropLast_cut (p : Policy) {rows batch : List α}
    (hb : batch ∈ (p.cut rows).dropLast) : batch.length = p.fullSize := by
  fun_induction cut p rows with
  | case1 => cases hb
  | case2 row rows ih =>
    by_cases hrest : (row :: rows).drop p.fullSize = []
    · rw [hrest, p.cut_eq_nil_iff.mpr rfl] at hb
      cases hb
    · have hne : p.cut ((row :: rows).drop p.fullSize) ≠ [] := mt p.cut_eq_nil_iff.mp hrest
      rw [List.dropLast_cons_of_ne_nil hne] at hb
      rcases List.mem_cons.mp hb with rfl | hb
      · have hlen : ¬ (row :: rows).length ≤ p.fullSize := mt List.drop_eq_nil_iff.mpr hrest
        rw [List.length_take]
        omega
      · exact ih hb

/-- No batch is empty, and none has too many rows. -/
theorem length_of_mem_cut (p : Policy) {rows batch : List α} (hb : batch ∈ p.cut rows) :
    1 ≤ batch.length ∧ batch.length ≤ p.fullSize := by
  have hone := p.one_le_fullSize
  fun_induction cut p rows with
  | case1 => cases hb
  | case2 row rows ih =>
    rcases List.mem_cons.mp hb with rfl | hb
    · rw [List.length_take, List.length_cons]
      omega
    · exact ih hb

end Policy

namespace State

/-- All batches that are sent before the loop ends are full, and so is one that it is sending, if it
will go on after it. -/
def Packing (s : State α) : Prop :=
  match s.phase with
  | .ended none => s.store.sent = s.policy.cut s.store.sent.flatten
  | .ended (some _) => True
  | .sending batch _ _ next =>
    (∀ rows ∈ s.store.sent, rows.length = s.policy.fullSize) ∧
      (next ≠ .stop → batch.rows.length = s.policy.fullSize)
  | _ => ∀ rows ∈ s.store.sent, rows.length = s.policy.fullSize

theorem isExpired_eq_false {s : State α} (hn : s.now < s.policy.batchAge) (batch : Batch α) :
    s.isExpired batch = false := by
  rw [isExpired, decide_eq_false_iff_not]
  omega

/-- Full batches, and perhaps one more, are how their rows are cut. -/
theorem sent_append_eq_cut {s : State α} {last : List (List α)}
    (hs : ∀ rows ∈ s.store.sent, rows.length = s.policy.fullSize)
    (hl : s.policy.cut last.flatten = last) :
    s.store.sent ++ last = s.policy.cut (s.store.sent ++ last).flatten := by
  rw [List.flatten_append, s.policy.cut_flatten_append hs, hl]

end State

theorem Delivery.packing {s t : State α} {row : α} {current : Option (Batch α)}
    {taken : List (Call α)} {refused : Option (Call α)}
    (h : Delivery s row current taken refused t) (hn : s.now < s.policy.batchAge)
    (hs : ∀ rows ∈ s.store.sent, rows.length = s.policy.fullSize) : t.Packing := by
  cases h with
  | notOpened | notFirst | notNext => exact trivial
  | first | next => exact hs
  | @tooOld batch hx =>
    rw [State.isExpired_eq_false hn] at hx
    cases hx

theorem LoopMove.packing {s t : State α} {taken : List (Call α)} {refused : Option (Call α)}
    (h : LoopMove s taken refused t) (hn : s.now < s.policy.batchAge) (hr : s.Roomy)
    (ho : s.InOrder) (hs : s.Packing) : t.Packing := by
  unfold State.Packing at hs
  cases h with
  | beginDrain hp =>
    rw [hp] at hs
    unfold State.Packing State.beginDrain State.wakeAll
    rw [hp]
    exact hs
  | @expire batch _ _ _ _ hx | @outlive _ batch _ _ _ _ hx =>
    rw [State.isExpired_eq_false hn] at hx
    cases hx
  | @take _ _ queue _ _ _ hp _ _ _ _ _ h =>
    rw [hp] at hs
    have hk := s.keeps_take queue
    apply h.packing
    · rw [hk.now, hk.policy]
      exact hn
    · rw [State.store_grantSlot, hk.policy]
      exact hs
  | takeLate hp _ _ h =>
    rw [hp] at hs
    exact h.packing hn hs
  | flush hp =>
    rw [hp] at hs
    exact ⟨hs, fun hne => absurd rfl hne⟩
  | finish hp =>
    rw [hp] at hs
    have hstop := State.sent_append_eq_cut hs (s.policy.cut_eq_nil_iff.mpr rfl)
    rwa [List.append_nil] at hstop
  | @fill row batch _ hp _ hf =>
    rw [hp] at hs
    have hheld := hr.held
    rw [hp] at hheld
    have hfilled : s.policy.fullSize ≤ (batch.rows ++ [row]).length := by
      rw [List.length_append, List.length_singleton]
      exact Nat.max_le.mpr ⟨Nat.le_add_left 1 _, hf⟩
    exact ⟨hs, fun _ => Nat.le_antisymm hheld hfilled⟩
  | join hp =>
    rw [hp] at hs
    exact hs
  | notSent => exact trivial
  | sent hp =>
    rw [hp] at hs
    exact List.forall_mem_append.mpr ⟨hs.1, List.forall_mem_singleton.mpr (hs.2 nofun)⟩
  | sentBefore hp _ _ h =>
    rw [hp] at hs
    refine h.packing hn ?_
    exact List.forall_mem_append.mpr ⟨hs.1, List.forall_mem_singleton.mpr (hs.2 nofun)⟩
  | @sentLast batch _ _ hp =>
    rw [hp] at hs
    have hheld := hr.held
    rw [hp] at hheld
    apply State.sent_append_eq_cut hs.1
    rw [List.flatten_singleton]
    exact s.policy.cut_of_length_le (ho.sending hp) hheld

theorem Transition.packing {s t : State α} {event : Event α} (h : Transition s event t)
    (hn : s.now < s.policy.batchAge) (hr : s.Roomy) (ho : s.InOrder) (hs : s.Packing) :
    t.Packing := by
  cases h with
  | loop h => exact h.packing hn hr ho hs
  | produce _ h => cases h <;> exact hs
  | clock => exact hs
  | @step step ha =>
    cases step with
    | advance => cases ha
    | _ => exact hs

theorem Transition.now_le {s t : State α} {event : Event α} (h : Transition s event t) :
    s.now ≤ t.now := by
  cases h with
  | loop h => exact Nat.le_of_eq h.keeps.now.symm
  | produce _ h => cases h <;> exact Nat.le_refl _
  | clock _ hn => exact hn
  | @step step ha =>
    cases step with
    | advance => cases ha
    | _ => exact Nat.le_refl _

theorem Path.packing {policy : Policy} {start s : State α} {events : List (Event α)}
    (hs : State.spawn? policy = some start) (h : Path start events s)
    (hn : s.now < policy.batchAge) : s.Packing := by
  induction h with
  | refl =>
    obtain rfl := State.eq_fresh hs
    exact nofun
  | @snoc s t _ _ h ht ih =>
    -- the clock never goes back, so no batch was old before
    have hbefore : s.now < policy.batchAge := Nat.lt_of_le_of_lt ht.now_le hn
    refine ht.packing ?_ (h.roomy hs) (h.inOrder hs) (ih hbefore)
    rw [h.policy_eq hs]
    exact hbefore

/-- The store has the accepted rows in full batches, the last of which may be shorter. -/
structure Packed (policy : Policy) (s : State α) : Prop where
  sent : s.store.sent = policy.cut s.acceptedRows
  full : ∀ rows ∈ s.store.sent.dropLast, rows.length = policy.fullSize
  last : ∀ rows ∈ s.store.sent.getLast?, 1 ≤ rows.length ∧ rows.length ≤ policy.fullSize

theorem Path.packed {policy : Policy} {start s : State α} {events : List (Event α)}
    (hs : State.spawn? policy = some start) (h : Path start events s)
    (hp : s.phase = .ended none) (hn : s.now < policy.batchAge) : Packed policy s := by
  have hpacking := h.packing hs hn
  have hledger := h.ledger hs
  unfold State.Packing at hpacking
  unfold State.Ledger at hledger
  rw [hp] at hpacking hledger
  have hsent : s.store.sent = policy.cut s.acceptedRows := by
    rw [← hledger, ← h.policy_eq hs]
    exact hpacking
  refine ⟨hsent, fun rows hrows => ?_, fun rows hrows => ?_⟩
  · rw [hsent] at hrows
    exact policy.length_of_mem_dropLast_cut hrows
  · rw [hsent] at hrows
    exact policy.length_of_mem_cut (List.mem_of_mem_getLast? hrows)

/-- A writer that has written everything before any batch could get old has sent the accepted rows
in full batches, the last of which may be shorter: neither stalls and slow appends nor the capacity
of the queue, nor the moment at which it was closed, make a difference. -/
theorem sent_eq_cut {policy : Policy} {start : State α} (hs : State.spawn? policy = some start) :
    (∀ events s, Path start events s → s.phase = .ended none → s.now < policy.batchAge →
      Packed policy s) ∧
    ∀ (steps : List (Step α)) (states : List (State α)) (i : Nat) (s : State α),
      start.run? steps = some states → states[i]? = some s → s.phase = .ended none →
      elapsed (steps.take (i + 1)) < policy.batchAge → Packed policy s := by
  constructor
  · exact fun events s h hp hn => h.packed hs hp hn
  · intro steps states i s hrun hi hp hn
    obtain ⟨-, events, h, -⟩ := State.exists_path_of_run? (State.isAtRest_of_spawn? hs) hrun hi
    have hnow : s.now = elapsed (steps.take (i + 1)) := by
      rw [State.now_of_run? hrun hi, State.eq_fresh hs]
      exact Nat.zero_add _
    exact h.packed hs hp (hnow ▸ hn)

/-- Slow appends and a stall, with a queue of one row: the five rows still go out by twos. -/
theorem sent_eq_cut_held_up : ∃ (start s : State Nat) (states : List (State Nat)),
    State.spawn? ⟨1, 2, 100⟩ = some start ∧
    start.run? [.slowAppends 3, .store [7, 8, 9], .stall, .store [5, 6], .advance 20, .resume,
      .advance 20, .shutdown] = some states ∧ states[7]? = some s ∧
    (s.phase, s.now) = (.ended none, 40) ∧ s.store.sent = [[7, 8], [9, 5], [6]] ∧
    Packed ⟨1, 2, 100⟩ s := by
  have heval : ((State.spawn? ⟨1, 2, 100⟩).bind fun start =>
      (start.run? [.slowAppends 3, .store [7, 8, 9], .stall, .store [5, 6], .advance 20, .resume,
        .advance 20, .shutdown]).bind fun states =>
          states[7]?.map fun s => ((s.phase, s.now), s.store.sent)) =
      some ((.ended none, 40), [[7, 8], [9, 5], [6]]) := by cbv
  obtain ⟨start, states, s, hs, hrun, hi, heval⟩ := State.exists_answer_of_spawn? heval
  obtain ⟨hend, hsent⟩ := Prod.mk.inj heval
  have hphase : s.phase = .ended none := (Prod.mk.inj hend).1
  obtain ⟨-, h⟩ := sent_eq_cut hs
  have hpacked := h _ _ 7 s hrun hi hphase (by decide)
  exact ⟨start, s, states, hs, hrun, hi, hend, hsent, hpacked⟩

end Pageviews.Writer
