import Mathlib.Tactic.Common
import Pageviews.Store.Session

/-! Sessions with a memory store, call by call. Main statements: a call does what one of the rules
says, and after it no task is left that could end. -/
namespace Pageviews.Store

variable {α : Type}

structure Exchange (α : Type) where
  call : Call α
  reply : Reply α

def Call.batch? : Call α → Option Nat
  | append batch _ | rows batch | drop batch | send batch => some batch
  | _ => none

namespace Session

/-- What a call does by itself. -/
inductive Performed (s : Session α) : Call α → Reply α → Session α → Prop where
  | init : Performed s .init .done s
  | notOpened (hf : s.store.fails .opening = true) : Performed s .openBatch (.refused .opening) s
  | opened (hf : s.store.fails .opening = false) :
      Performed s .openBatch (.opened s.batches.length)
        { s with store := s.store.countOpened, batches := s.batches ++ [some []] }
  | notAppended {batch : Nat} {row : α} {rows : List α} (hb : s.batch? batch = some rows)
      (hf : s.store.fails .appending = true) :
      Performed s (.append batch row) (.refused .appending) s
  | appended {batch : Nat} {row : α} {rows : List α} (hb : s.batch? batch = some rows)
      (hf : s.store.fails .appending = false) :
      Performed s (.append batch row) .done
        { s with
          now := s.now + s.store.delay
          batches := s.batches.set batch (some (rows ++ [row])) }
  | counted {batch : Nat} {rows : List α} (hb : s.batch? batch = some rows) :
      Performed s (.rows batch) (.count rows.length) s
  | dropped {batch : Nat} {rows : List α} (hb : s.batch? batch = some rows) :
      Performed s (.drop batch) .done { s with batches := s.batches.set batch none }
  | sending {batch : Nat} {rows : List α} (hb : s.batch? batch = some rows) :
      Performed s (.send batch) (.started s.started)
        (start { s with batches := s.batches.set batch none } (.send rows))
  | waiting (count : Nat) :
      Performed s (.wait count) (.started s.started) (s.start (.wait count))
  | listed : Performed s .batches (.batches s.store.sent) s
  | advanced (time : Nat) : Performed s (.advance time) .done { s with now := s.now + time }
  | stalled : Performed s .stall .done { s with store := { s.store with stalled := true } }
  | resumed : Performed s .resume .done { s with store := { s.store with stalled := false } }
  | slowed (time : Nat) :
      Performed s (.slowAppends time) .done { s with store := { s.store with delay := time } }
  | failing (point : FailurePoint) :
      Performed s (.failOn point) .done { s with store := { s.store with failure := some point } }

variable {s t : Session α} {call : Call α} {reply : Reply α}

theorem perform?_of_performed (h : s.Performed call reply t) :
    s.perform? call = some (t, reply) := by
  cases h with
  | notOpened hf | opened hf => simp [perform?, hf]
  | notAppended hb hf | appended hb hf => simp [perform?, hb, hf]
  | counted hb | dropped hb | sending hb => simp [perform?, hb]
  | _ => rfl

/-- A call that asks for a batch is made only while it is open. -/
theorem exists_performed (s : Session α) (call : Call α)
    (h : ∀ batch, call.batch? = some batch → ∃ rows, s.batch? batch = some rows) :
    ∃ reply t, s.Performed call reply t := by
  cases call with
  | openBatch =>
    cases hf : s.store.fails .opening with
    | true => exact ⟨_, _, .notOpened hf⟩
    | false => exact ⟨_, _, .opened hf⟩
  | append batch row =>
    obtain ⟨rows, hb⟩ := h batch rfl
    cases hf : s.store.fails .appending with
    | true => exact ⟨_, _, .notAppended hb hf⟩
    | false => exact ⟨_, _, .appended hb hf⟩
  | rows batch =>
    obtain ⟨rows, hb⟩ := h batch rfl
    exact ⟨_, _, .counted hb⟩
  | drop batch =>
    obtain ⟨rows, hb⟩ := h batch rfl
    exact ⟨_, _, .dropped hb⟩
  | send batch =>
    obtain ⟨rows, hb⟩ := h batch rfl
    exact ⟨_, _, .sending hb⟩
  | init => exact ⟨_, _, .init⟩
  | wait count => exact ⟨_, _, .waiting count⟩
  | batches => exact ⟨_, _, .listed⟩
  | advance time => exact ⟨_, _, .advanced time⟩
  | stall => exact ⟨_, _, .stalled⟩
  | resume => exact ⟨_, _, .resumed⟩
  | slowAppends time => exact ⟨_, _, .slowed time⟩
  | failOn point => exact ⟨_, _, .failing point⟩

theorem Performed.isOpen (h : s.Performed call reply t) {batch : Nat}
    (hb : call.batch? = some batch) : ∃ rows, s.batch? batch = some rows := by
  cases h with
  | notAppended h | appended h | counted h | dropped h | sending h =>
    cases hb
    exact ⟨_, h⟩
  | _ => cases hb

theorem perform?_eq_none
    (h : ¬ ∀ batch, call.batch? = some batch → ∃ rows, s.batch? batch = some rows) :
    s.perform? call = none := by
  push Not at h
  obtain ⟨batch, hcall, hnone⟩ := h
  have hb : s.batch? batch = none := Option.eq_none_iff_forall_ne_some.mpr hnone
  cases call <;> cases hcall <;> simp [perform?, hb]

/-- The rules are what calls do by themselves. -/
theorem perform?_eq_some_iff : s.perform? call = some (t, reply) ↔ s.Performed call reply t := by
  refine ⟨fun h => ?_, perform?_of_performed⟩
  by_cases hopen : ∀ batch, call.batch? = some batch → ∃ rows, s.batch? batch = some rows
  · obtain ⟨reply', u, hu⟩ := exists_performed s call hopen
    rw [perform?_of_performed hu, Option.some.injEq, Prod.mk.injEq] at h
    rw [← h.1, ← h.2]
    exact hu
  · rw [perform?_eq_none hopen] at h
    cases h

/-- No task is left that could end. -/
def Settled (s : Session α) : Prop :=
  ∀ task ∈ s.pending, s.outcome? s.store.sent task.2 = none

theorem store_settle (s : Session α) :
    s.settle.store = { s.store with sent := s.store.sent ++ s.sendable } := by
  have keep (batches : List (List α)) (m : Memory α) :
      batches.foldl Memory.keep m = { m with sent := m.sent ++ batches } := by
    induction batches generalizing m with
    | nil => simp
    | cons rows batches ih => simp [ih, Memory.keep]
  exact keep s.sendable s.store

theorem sent_settle (s : Session α) : s.settle.store.sent = s.store.sent ++ s.sendable := by
  rw [store_settle]

theorem outcome?_settle (s : Session α) (sent : List (List α)) :
    s.settle.outcome? sent = s.outcome? sent := by
  funext task
  cases task <;> simp [outcome?, store_settle, Memory.fails]

theorem pending_settle (s : Session α) :
    s.settle.pending =
      s.pending.filter fun task => (s.outcome? (s.store.sent ++ s.sendable) task.2).isNone := by
  rw [← sent_settle]
  rfl

theorem ended_settle (s : Session α) :
    s.settle.ended = s.ended ++
      s.pending.filterMap fun task =>
        (s.outcome? (s.store.sent ++ s.sendable) task.2).map (task.1, ·) := by
  rw [← sent_settle]
  rfl

theorem settled_settle (s : Session α) : s.settle.Settled := by
  intro task htask
  rw [pending_settle, List.mem_filter] at htask
  rw [outcome?_settle, sent_settle]
  exact Option.isNone_iff_eq_none.mp htask.2

theorem Settled.sendable (h : s.Settled) : s.sendable = [] := by
  cases hstop : s.store.stalled || s.store.fails .sending with
  | true => simp [Session.sendable, hstop]
  | false =>
    rw [Bool.or_eq_false_iff] at hstop
    simp only [Session.sendable, hstop.1, hstop.2, Bool.or_self, Bool.false_eq_true, if_false,
      List.filterMap_eq_nil_iff]
    rintro ⟨id, task⟩ htask
    cases task with
    | wait count => rfl
    | send rows =>
      have hnone := h _ htask
      simp [outcome?, hstop] at hnone

/-- Where nothing is left to end, nothing ends. -/
theorem Settled.settle (h : s.Settled) : s.settle = s := by
  have hstore : s.settle.store = s.store := by rw [store_settle, h.sendable, List.append_nil]
  have hpending : s.settle.pending = s.pending := by
    rw [pending_settle, h.sendable, List.append_nil, List.filter_eq_self]
    intro task htask
    rw [h task htask]
    rfl
  have hended : s.settle.ended = s.ended := by
    rw [ended_settle, h.sendable, List.append_nil, List.append_right_eq_self,
      List.filterMap_eq_nil_iff]
    intro task htask
    rw [h task htask]
    rfl
  calc s.settle
      = { s with store := s.settle.store, pending := s.settle.pending, ended := s.settle.ended } :=
        rfl
    _ = s := by rw [hstore, hpending, hended]

theorem settled_new : (new : Session α).Settled := by
  intro task htask
  cases htask

/-- What a session with a new store can hear and say, and where that leaves it. -/
inductive Dialogue : List (Exchange α) → Session α → Prop where
  | new : Dialogue [] new
  | snoc {said : List (Exchange α)} {s t : Session α} {call : Call α} {reply : Reply α}
      (h : Dialogue said s) (hp : s.Performed call reply t) :
      Dialogue (said ++ [⟨call, reply⟩]) t.settle

theorem Dialogue.settled {said : List (Exchange α)} (h : Dialogue said s) : s.Settled := by
  cases h with
  | new => exact settled_new
  | snoc => exact settled_settle _

def talk? (s : Session α) : List (Call α) → Option (List (Exchange α) × Session α)
  | [] => some ([], s)
  | call :: calls => do
    let (t, reply) ← s.call? call
    let (said, u) ← t.talk? calls
    return (⟨call, reply⟩ :: said, u)

theorem call?_eq_some_iff :
    s.call? call = some (t, reply) ↔ ∃ u, s.Performed call reply u ∧ u.settle = t := by
  simp only [call?, Option.map_eq_some_iff, Prod.exists, Prod.mk.injEq]
  constructor
  · rintro ⟨u, answer, hp, rfl, rfl⟩
    exact ⟨u, perform?_eq_some_iff.mp hp, rfl⟩
  · rintro ⟨u, hp, rfl⟩
    exact ⟨u, reply, perform?_eq_some_iff.mpr hp, rfl, rfl⟩

theorem exists_of_talk?_cons {calls : List (Call α)} {said : List (Exchange α)}
    (h : s.talk? (call :: calls) = some (said, t)) :
    ∃ u reply rest, s.call? call = some (u, reply) ∧ u.talk? calls = some (rest, t) ∧
      ⟨call, reply⟩ :: rest = said := by
  simp only [talk?, Option.bind_eq_bind, Option.bind_eq_some_iff, Prod.exists,
    Option.pure_def, Option.some.injEq, Prod.mk.injEq] at h
  obtain ⟨u, reply, hcall, rest, v, hrest, hsaid, rfl⟩ := h
  exact ⟨u, reply, rest, hcall, hrest, hsaid⟩

theorem calls_of_talk? {calls : List (Call α)} {said : List (Exchange α)}
    (h : s.talk? calls = some (said, t)) : said.map Exchange.call = calls := by
  induction calls generalizing s said with
  | nil =>
    obtain ⟨rfl, -⟩ : [] = said ∧ s = t := by simpa [talk?] using h
    rfl
  | cons call calls ih =>
    obtain ⟨u, reply, rest, -, hrest, rfl⟩ := exists_of_talk?_cons h
    rw [List.map_cons, ih hrest]

theorem Dialogue.talk? {calls : List (Call α)} {said more : List (Exchange α)}
    (h : Dialogue said s) (ht : s.talk? calls = some (more, t)) : Dialogue (said ++ more) t := by
  induction calls generalizing said s more with
  | nil =>
    obtain ⟨rfl, rfl⟩ : [] = more ∧ s = t := by simpa [Session.talk?] using ht
    simpa using h
  | cons call calls ih =>
    obtain ⟨u, reply, rest, hcall, hrest, rfl⟩ := exists_of_talk?_cons ht
    obtain ⟨w, hp, rfl⟩ := call?_eq_some_iff.mp hcall
    simpa using ih (h.snoc hp) hrest

end Session
end Pageviews.Store
