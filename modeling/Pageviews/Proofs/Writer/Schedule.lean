import Pageviews.Proofs.Writer.Path

/-! Which rows go together and when they are sent, from the times at which they were accepted
alone. -/
namespace Pageviews.Writer

variable {α : Type}

namespace Policy

/-- Whether a row joins a batch that one row opened and some others have joined. -/
def joins (p : Policy) (first : Admission α) (others : List (Admission α)) (a : Admission α) :
    Bool :=
  others.length + 1 < p.fullSize && a.time < first.time + p.batchAge

/-- The batches of what follows an open batch, and that batch. -/
def gather (p : Policy) (first : Admission α) (others : List (Admission α)) :
    List (Admission α) → List (List (Admission α))
  | [] => [first :: others]
  | a :: more =>
    if p.joins first others a then p.gather first (others ++ [a]) more
    else (first :: others) :: p.gather a [] more

/-- The batches of the accepted rows: each takes rows as long as it is neither full nor too old. -/
def batches (p : Policy) : List (Admission α) → List (List (Admission α))
  | [] => []
  | first :: more => p.gather first [] more

/-- When a batch is closed: by the row that fills it, else by its age or when the queue is sealed. -/
def closedAt (p : Policy) (sealed : Option Nat) : List (Admission α) → Nat
  | [] => 0
  | first :: others =>
    if others.length + 1 = p.fullSize then (others.getLastD first).time
    else sealed.elim (first.time + p.batchAge) (min (first.time + p.batchAge))

/-- The rows belong in one batch, which was opened at a time. -/
structure Gathers (p : Policy) (openedAt : Nat) (batch : List (Admission α)) : Prop where
  opened : batch.head?.map Admission.time = some openedAt
  young : ∀ a ∈ batch.tail, a.time < openedAt + p.batchAge
  late : ∀ a ∈ batch, openedAt ≤ a.time
  length : batch.length ≤ p.fullSize

theorem one_le_fullSize (p : Policy) : 1 ≤ p.fullSize := Nat.le_max_left _ _

theorem gather_append (p : Policy) (first : Admission α) (joined others more : List (Admission α))
    (hy : ∀ a ∈ others, a.time < first.time + p.batchAge)
    (hl : joined.length + others.length < p.fullSize) :
    p.gather first joined (others ++ more) = p.gather first (joined ++ others) more := by
  induction others generalizing joined with
  | nil => simp
  | cons a others ih =>
    rw [List.length_cons] at hl
    obtain ⟨ha, hothers⟩ := List.forall_mem_cons.mp hy
    have hj : p.joins first joined a = true := by
      simp only [joins, Bool.and_eq_true, decide_eq_true_eq]
      exact ⟨by omega, ha⟩
    have hlen : (joined ++ [a]).length + others.length < p.fullSize := by
      rw [List.length_append, List.length_singleton]
      omega
    rw [List.cons_append, gather, if_pos hj, ih (joined ++ [a]) hothers hlen, List.append_assoc]
    rfl

theorem flatten_gather (p : Policy) (first : Admission α) (others more : List (Admission α)) :
    (p.gather first others more).flatten = first :: others ++ more := by
  induction more generalizing first others with
  | nil => simp [gather]
  | cons a more ih =>
    rw [gather]
    split
    · rw [ih]
      simp
    · rw [List.flatten_cons, ih]
      rfl

/-- Every row is in one batch, and the order is kept. -/
theorem flatten_batches (p : Policy) (rows : List (Admission α)) :
    (p.batches rows).flatten = rows := by
  cases rows with
  | nil => rfl
  | cons first more => exact p.flatten_gather first [] more

namespace Gathers

variable {p : Policy} {openedAt : Nat} {batch : List (Admission α)}

theorem single (p : Policy) (a : Admission α) : p.Gathers a.time [a] where
  opened := rfl
  young := nofun
  late := by simp
  length := p.one_le_fullSize

theorem exists_cons (h : p.Gathers openedAt batch) :
    ∃ first others, batch = first :: others ∧ first.time = openedAt := by
  have ho := h.opened
  cases batch with
  | nil => cases ho
  | cons first others => exact ⟨first, others, rfl, Option.some.inj ho⟩

theorem snoc (h : p.Gathers openedAt batch) {a : Admission α} (hl : batch.length < p.fullSize)
    (hy : a.time < openedAt + p.batchAge) (ha : openedAt ≤ a.time) :
    p.Gathers openedAt (batch ++ [a]) := by
  obtain ⟨first, others, rfl, -⟩ := h.exists_cons
  refine ⟨h.opened, ?_, ?_, ?_⟩
  · intro b hb
    rcases List.mem_append.mp hb with hb | hb
    · exact h.young b hb
    · rw [List.mem_singleton.mp hb]
      exact hy
  · intro b hb
    rcases List.mem_append.mp hb with hb | hb
    · exact h.late b hb
    · rw [List.mem_singleton.mp hb]
      exact ha
  · rw [List.length_append, List.length_singleton]
    exact hl

/-- A batch is followed by the next when it is full, or when what follows is too late for it. -/
theorem batches_append (h : p.Gathers openedAt batch) {more : List (Admission α)}
    (hc : batch.length = p.fullSize ∨ ∀ a ∈ more, openedAt + p.batchAge ≤ a.time) :
    p.batches (batch ++ more) = batch :: p.batches more := by
  obtain ⟨first, others, rfl, rfl⟩ := h.exists_cons
  have hl := h.length
  rw [List.length_cons] at hl hc
  have hg := p.gather_append first [] others more h.young (by simpa using Nat.lt_of_succ_le hl)
  rw [List.nil_append] at hg
  rw [List.cons_append, batches, hg]
  cases more with
  | nil => rfl
  | cons a more =>
    have hj : p.joins first others a = false := by
      rw [joins, Bool.and_eq_false_iff, decide_eq_false_iff_not, decide_eq_false_iff_not]
      rcases hc with hc | hc
      · left; omega
      · right
        have := hc a List.mem_cons_self
        omega
    rw [gather, if_neg (by simp [hj])]
    rfl

theorem batches_eq (h : p.Gathers openedAt batch) : p.batches batch = [batch] := by
  have hb : p.batches (batch ++ []) = [batch] := h.batches_append (.inr nofun)
  rwa [List.append_nil] at hb

theorem closedAt_le (h : p.Gathers openedAt batch) {now : Nat} {sealed : Option Nat}
    (hp : ∀ a ∈ batch, a.time ≤ now)
    (hc : batch.length = p.fullSize ∨ openedAt + p.batchAge ≤ now) :
    p.closedAt sealed batch ≤ now := by
  obtain ⟨first, others, rfl, rfl⟩ := h.exists_cons
  rw [closedAt]
  split
  · exact hp _ List.getLastD_mem_cons
  · next hl =>
    have ha := hc.resolve_left hl
    cases sealed with
    | none => exact ha
    | some time => exact Nat.le_trans (Nat.min_le_left _ _) ha

theorem lt_closedAt (h : p.Gathers openedAt batch) {now : Nat} (hl : batch.length < p.fullSize)
    (hn : now < openedAt + p.batchAge) : now < p.closedAt none batch := by
  obtain ⟨first, others, rfl, rfl⟩ := h.exists_cons
  rw [List.length_cons] at hl
  rw [closedAt, if_neg (Nat.ne_of_lt hl)]
  exact hn

end Gathers

/-- Sealing the queue closes every batch. -/
theorem closedAt_le_of_sealed (p : Policy) {batch : List (Admission α)} {now time : Nat}
    (hp : ∀ a ∈ batch, a.time ≤ now) (ht : time ≤ now) : p.closedAt (some time) batch ≤ now := by
  cases batch with
  | nil => exact Nat.zero_le _
  | cons first others =>
    rw [closedAt]
    split
    · exact hp _ List.getLastD_mem_cons
    · exact Nat.le_trans (Nat.min_le_right _ _) ht

end Policy

namespace Step

def duration : Step α → Nat
  | advance time => time
  | _ => 0

/-- Whether a step closes the queue: it asks for the end, or gives the writer up. -/
def seals : Step α → Bool
  | shutdown | drop => true
  | _ => false

end Step

def elapsed (steps : List (Step α)) : Nat := total (steps.map Step.duration)

/-- When the first of the steps that close the queue was taken. -/
def sealedAt (steps : List (Step α)) : Option Nat :=
  if steps.any Step.seals then some (elapsed (steps.takeWhile (!·.seals))) else none

theorem sealedAt_eq_none {steps : List (Step α)} (h : steps.any Step.seals = false) :
    sealedAt steps = none := by
  rw [sealedAt, h]
  rfl

/-- The queue was closed before now. -/
theorem exists_sealedAt {steps : List (Step α)} (h : steps.any Step.seals = true) :
    ∃ time, sealedAt steps = some time ∧ time ≤ elapsed steps := by
  refine ⟨_, if_pos h, ?_⟩
  have hsplit : elapsed steps = elapsed (steps.takeWhile (!·.seals)) +
      elapsed (steps.dropWhile (!·.seals)) := by
    rw [elapsed, elapsed, elapsed, ← total_append, ← List.map_append,
      List.takeWhile_append_dropWhile]
  rw [hsplit]
  exact Nat.le_add_right _ _

theorem any_seals_filter (steps : List (Step α)) :
    (steps.filter (!·.isAdvance)).any Step.seals = steps.any Step.seals := by
  rw [List.any_filter]
  congr 1
  funext step
  cases step <;> rfl

namespace State

theorem now_advanceTo (s : State α) (target : Nat) : (s.advanceTo target).now = target := by
  fun_induction advanceTo s target with
  | case1 => rfl
  | case2 s due hd hdue ih => exact ih
  | case3 => rfl

theorem now_take (s : State α) (step : Step α) : (s.take step).now = s.now + step.duration := by
  rw [take, now_settle]
  cases step with
  | advance time => exact now_advanceTo s (s.now + time)
  | _ => rfl

/-- The clock of an answer. -/
theorem now_of_run? {s t : State α} {steps : List (Step α)} {states : List (State α)} {i : Nat}
    (h : s.run? steps = some states) (hi : states[i]? = some t) :
    t.now = s.now + elapsed (steps.take (i + 1)) := by
  induction steps generalizing s states i with
  | nil => cases h; simp at hi
  | cons step steps ih =>
    simp only [run?, Option.bind_eq_bind, Option.bind_eq_some_iff, Option.pure_def,
      Option.some.injEq] at h
    obtain ⟨u, hu, rest, hrest, rfl⟩ := h
    have hnow : u.now = s.now + step.duration := by
      unfold step? at hu
      split at hu <;> cases hu
      exact now_take s step
    cases i with
    | zero =>
      cases hi
      simpa [elapsed, total] using hnow
    | succ i =>
      rw [ih hrest hi, hnow, Nat.add_assoc]
      rfl

end State
end Pageviews.Writer
