import Pageviews.Proofs.Writer.Drain
import Pageviews.Proofs.Writer.OnTime

/-! A writer that was given up while producers still store rows. Main statement: if nothing holds
it up, it is done within the time that the appends of the rows that are left take. -/
namespace Pageviews.Writer

variable {α : Type} {s t : State α}

namespace State

theorem rowCounts_eq (s : State α) : s.rowCounts = s.roster.map (·.rows.length) := by
  rw [rowCounts, roster, List.map_map]
  rfl

def pending (s : State α) : Nat := s.queue.length + total s.rowCounts

/-- The appends of these rows are done by a time if each takes the longest. -/
def LeavesBy (s : State α) (longest deadline : Nat) : Prop :=
  match s.phase with
  | .appending _ _ until_ => until_ + s.pending * longest ≤ deadline
  | .sending _ _ _ (.append _) => s.now + (s.pending + 1) * longest ≤ deadline
  | .ended _ => True
  | _ => s.now + s.pending * longest ≤ deadline

theorem LeavesBy.mono {longest deadline : Nat} (h : s.LeavesBy longest deadline)
    (hp : t.phase = s.phase) (hn : t.now = s.now) (hle : t.pending ≤ s.pending) :
    t.LeavesBy longest deadline := by
  have hmul := Nat.mul_le_mul_right longest hle
  have hmul' := Nat.mul_le_mul_right longest (Nat.add_le_add_right hle 1)
  unfold LeavesBy at *
  rw [hp, hn]
  split <;> simp only [*] at h <;> omega

theorem pending_cons {row : α} {queue : List α} (hq : s.queue = row :: queue) :
    ({ s with queue } : State α).pending + 1 = s.pending := by
  rw [pending, pending, hq, List.length_cons, Nat.add_right_comm]
  rfl

theorem pending_grantSlot (s : State α) : s.grantSlot.pending = s.pending := by
  rw [pending, queue_grantSlot, rowCounts_grantSlot, pending]

end State

variable {longest deadline : Nat} {row : α} {current : Option (Batch α)}
  {taken : List (Call α)} {refused : Option (Call α)} {producer : Producer α}
  {others : List (Producer α)}

theorem Keeps.pending (h : Keeps s t) (hq : t.queue = s.queue) : t.pending = s.pending := by
  rw [State.pending, State.rowCounts_eq, h.roster, ← State.rowCounts_eq, hq, State.pending]

/-- A producer brings nothing that was not counted. -/
theorem Production.pending_le (h : Production s producer others t)
    (hr : s.ready = producer :: others) : t.pending ≤ s.pending := by
  have hcounts : s.rowCounts =
      producer.rows.length :: (others ++ s.waiting).map (·.rows.length) := by
    rw [State.rowCounts, hr]
    rfl
  cases h with
  | done | refused =>
    rw [State.pending, State.pending, hcounts, total]
    exact Nat.add_le_add_left (Nat.le_add_left _ _) _
  | accepted hrows =>
    rw [State.pending, State.pending, hcounts, hrows]
    simp only [State.accept, State.rowCounts, List.cons_append, List.map_cons, total,
      List.length_append, List.length_cons, List.length_nil]
    omega
  | waits =>
    rw [State.pending, State.pending, hcounts, total]
    simp only [State.rowCounts, List.map_append, total_append, List.map_cons, List.map_nil, total]
    omega

theorem Delivery.leavesBy (h : Delivery s row current taken refused t)
    (hd : s.store.delay ≤ longest) (hs : s.now + (s.pending + 1) * longest ≤ deadline) :
    t.LeavesBy longest deadline := by
  have hstart : s.now + s.store.delay + s.pending * longest ≤ deadline := by
    rw [Nat.add_one_mul] at hs
    omega
  cases h with
  | notOpened | notFirst | notNext => exact trivial
  | first | next => exact hstart
  | tooOld => exact hs

/-- Nobody holds the writer any more but those who are storing rows, and nothing holds it up. -/
structure Leaving (longest deadline : Nat) (s : State α) : Prop where
  held : s.held = false
  stalled : s.store.stalled = false
  delay : s.store.delay ≤ longest
  leaves : s.LeavesBy longest deadline

namespace Leaving

theorem leavesBy_loopMove (h : Leaving longest deadline s) (ho : s.InOrder)
    (hm : LoopMove s taken refused t) : t.LeavesBy longest deadline := by
  have hl := h.leaves
  unfold State.LeavesBy at hl
  cases hm with
  | beginDrain hp =>
    have hpending := s.keeps_beginDrain.pending rfl
    simp only [hp] at hl
    simp only [State.LeavesBy, hpending]
    simp only [State.beginDrain, State.wakeAll, hp]
    exact hl
  | expire hp | flush hp | sent hp =>
    simp only [hp] at hl
    exact hl
  | @take _ _ queue _ _ _ hp _ _ _ _ hq hdel =>
    have hkeeps := s.keeps_take queue
    simp only [hp] at hl
    refine hdel.leavesBy (hkeeps.delay ▸ h.delay) ?_
    rw [State.pending_grantSlot, State.pending_cons hq, hkeeps.now]
    exact hl
  | @takeLate _ _ queue _ _ _ hp _ hq hdel =>
    simp only [hp] at hl
    refine hdel.leavesBy h.delay ?_
    rw [State.pending_cons hq]
    exact hl
  | finish | notSent | sentLast => exact trivial
  | fill hp | outlive hp | join hp =>
    -- the append is never late, so now is when it was due
    unfold State.InOrder at ho
    simp only [hp] at hl ho
    have hnow : s.now + s.pending * longest ≤ deadline := by omega
    exact hnow
  | sentBefore hp _ _ hdel =>
    simp only [hp] at hl
    exact hdel.leavesBy h.delay hl

theorem loopMove (h : Leaving longest deadline s) (ho : s.InOrder)
    (hm : LoopMove s taken refused t) : Leaving longest deadline t := by
  have hk := hm.keeps
  refine ⟨hk.held.trans h.held, hk.stalled.trans h.stalled, ?_, h.leavesBy_loopMove ho hm⟩
  rw [hk.delay]
  exact h.delay

theorem production (h : Leaving longest deadline s) (hr : s.ready = producer :: others)
    (hp : Production s producer others t) : Leaving longest deadline t := by
  have hpending := hp.pending_le hr
  cases hp with
  | done | refused | accepted | waits =>
    exact ⟨h.held, h.stalled, h.delay, h.leaves.mono rfl rfl hpending⟩

/-- A writer that has come to rest waits for an append, if it has not ended. -/
theorem hasEnded_or_appending (h : Leaving longest deadline s) (hslots : Slots s)
    (hr : s.IsAtRest) : s.hasEnded = true ∨
      ∃ row batch until_, s.phase = .appending row batch until_ ∧ s.now < until_ := by
  have hm := State.move_eq_none_iff.mp hr.1
  cases hp : s.phase with
  | idle =>
    -- no row is left to wait for, so the loop would have seen that nobody is
    have hq : s.queue = [] := by
      by_contra hq
      exact hm (State.canMove_of_queue_ne_nil hp hq)
    have hasked := State.isAsked_eq_false hslots hr hp hq
    rw [State.isAsked, h.held, Bool.not_false, Bool.or_true] at hasked
    cases hasked
  | appending row batch until_ =>
    have hn : ¬ until_ ≤ s.now := fun hn => hm (State.canMove_of_appending hp hn)
    exact .inr ⟨row, batch, until_, rfl, Nat.lt_of_not_le hn⟩
  | sending => exact absurd (State.canMove_of_sending hp h.stalled) hm
  | ended => exact .inl (by rw [State.hasEnded, hp])

theorem clock (h : Leaving longest deadline s) (hslots : Slots s) (hr : s.IsAtRest) (time : Nat) :
    Leaving longest deadline { s with now := time } := by
  refine ⟨h.held, h.stalled, h.delay, ?_⟩
  have hl := h.leaves
  unfold State.LeavesBy at *
  rcases h.hasEnded_or_appending hslots hr with he | ⟨row, batch, until_, hp, -⟩
  · cases hp : s.phase with
    | ended => exact trivial
    | _ => simp [State.hasEnded, hp] at he
  · rw [hp] at hl ⊢
    exact hl

theorem step (h : Leaving longest deadline s) {step : Step α} (ha : step.isAdvance = false)
    (hw : step.needsWriter = true → s.held = true) (hm : step.Mild longest) :
    Leaving longest deadline (s.perform step) := by
  cases step with
  | advance => cases ha
  | stall => cases hm
  | store | shutdown | drop =>
    have hheld := h.held
    rw [hw rfl] at hheld
    cases hheld
  | slowAppends => exact ⟨h.held, h.stalled, hm, h.leaves⟩
  | resume => exact ⟨h.held, rfl, h.delay, h.leaves⟩
  | failOn | look => exact ⟨h.held, h.stalled, h.delay, h.leaves⟩

theorem of_held (hh : s.held = false) (hstalled : s.store.stalled = false)
    (hleft : s.appendLeft ≤ longest) (hdelay : s.store.delay ≤ longest) :
    Leaving longest (s.now + (s.pending + 1) * longest) s := by
  refine ⟨hh, hstalled, hdelay, ?_⟩
  have hsucc := Nat.add_one_mul s.pending longest
  unfold State.appendLeft at hleft
  unfold State.LeavesBy
  split
  · next hp =>
    simp only [hp] at hleft
    omega
  · omega
  · exact trivial
  · omega

end Leaving

/-- As long as the steps are mild, the writer goes on to end in time. -/
theorem Path.leaving {events : List (Event α)} (h : Path s events t)
    (hm : ∀ step ∈ events.filterMap Event.step?, step.Mild longest) (hslots : Slots s)
    (ho : s.InOrder) (hs : Leaving longest deadline s) : Leaving longest deadline t := by
  induction h with
  | refl => exact hs
  | @snoc t u events event h ht ih =>
    have hl : Leaving longest deadline t := by
      refine ih fun step hstep => hm step ?_
      rw [List.filterMap_append]
      exact List.mem_append_left _ hstep
    cases ht with
    | loop hmove => exact hl.loopMove (h.invariant (fun ht => ht.inOrder) ho) hmove
    | produce hr hp => exact hl.production hr hp
    | clock hr => exact hl.clock (hslots.path h) hr _
    | step ha hw => exact hl.step ha hw (hm _ (by simp [Event.step?]))

/-- The writer has ended when the appends of all rows that were left have had the time. -/
theorem Path.ends_in_time {events : List (Event α)} (h : Path s events t)
    (hm : ∀ step ∈ events.filterMap Event.step?, step.Mild longest) (hslots : Slots s)
    (ho : s.InOrder) (hh : s.held = false) (hstalled : s.store.stalled = false)
    (hleft : s.appendLeft ≤ longest) (hdelay : s.store.delay ≤ longest) (hr : t.IsAtRest)
    (hn : s.now + (s.pending + 1) * longest ≤ t.now) : t.hasEnded = true := by
  have hleaving := h.leaving hm hslots ho (.of_held hh hstalled hleft hdelay)
  rcases hleaving.hasEnded_or_appending (hslots.path h) hr with he | ⟨_, _, until_, hp, hlt⟩
  · exact he
  · have hl := hleaving.leaves
    unfold State.LeavesBy at hl
    rw [hp] at hl
    omega

/-- Of a writer that was given up nobody can ask a shutdown any more. -/
theorem Path.shutdown_not_mem {events : List (Event α)} (h : Path s events t)
    (hh : s.held = false) : t.held = false ∧ .shutdown ∉ events.filterMap Event.step? := by
  induction h with
  | refl => exact ⟨hh, List.not_mem_nil⟩
  | @snoc t u events event _ ht ih =>
    obtain ⟨hheld, hbefore⟩ := ih
    rw [List.filterMap_append, List.mem_append, not_or]
    cases ht with
    | loop hm => exact ⟨hm.keeps.held.trans hheld, hbefore, List.not_mem_nil⟩
    | produce _ hp => cases hp <;> exact ⟨hheld, hbefore, List.not_mem_nil⟩
    | clock => exact ⟨hheld, hbefore, List.not_mem_nil⟩
    | @step step ha hw =>
      cases step with
      | advance => cases ha
      | store | shutdown | drop =>
        rw [hw rfl] at hheld
        cases hheld
      | _ => exact ⟨hheld, hbefore, by simp [Event.step?]⟩

end Pageviews.Writer
