import Mathlib.Algebra.BigOperators.Group.List.Basic
import Mathlib.Data.Prod.Lex
import Mathlib.Order.WellFounded
import Pageviews.Proofs.Store.Interleaving

/-! When nothing is left to do for the tasks of a session. Main statements: at rest all waits sleep
and all sends are stalled; and that state is reached, as turns do not go on forever. -/
namespace Pageviews.Store

variable {α : Type}

namespace Interleaving

variable {r t : Interleaving α} {task : Nat}

def Stuck (r : Interleaving α) (task : Nat) : Task α → Prop
  | .wait _ => ∃ heard, r.waits task = .asleep heard ∧ r.news ≤ heard
  | .send _ => r.sends task = .start ∧ r.session.store.stalled = true

theorem AtRest.stuck (h : r.AtRest) {todo : Task α} (hp : (task, todo) ∈ r.session.pending) :
    r.Stuck task todo := by
  cases todo with
  | wait count =>
    cases hstage : r.waits task with
    | start => exact absurd (.register hp hstage) (h _)
    | registered heard =>
      rcases Nat.lt_or_ge r.session.store.sent.length count with hlt | hle
      · exact absurd (.sleep hp hstage hlt) (h _)
      · exact absurd (.answer hp hstage hle) (h _)
    | asleep heard =>
      exact ⟨heard, hstage, Nat.le_of_not_lt fun hnews => h _ (.wake hp hstage hnews)⟩
  | send rows =>
    cases hstage : r.sends task with
    | start =>
      refine ⟨hstage, ?_⟩
      by_contra hstalled
      exact h _ (.enter hp hstage (by simpa using hstalled))
    | admitted =>
      cases hfails : r.session.store.fails .sending with
      | true => exact absurd (.refuse hp hstage hfails) (h _)
      | false => exact absurd (.pass hp hstage hfails) (h _)
    | passed => exact absurd (.keep hp hstage) (h _)
    | kept => exact absurd (.tell hp hstage) (h _)
    | told => exact absurd (.finish hp hstage) (h _)

theorem atRest_of_stuck (h : ∀ task todo, (task, todo) ∈ r.session.pending → r.Stuck task todo) :
    r.AtRest := by
  intro t ht
  cases ht with
  | register hp hstage | answer hp hstage | sleep hp hstage =>
    obtain ⟨heard, hasleep, -⟩ := h _ _ hp
    rw [hasleep] at hstage
    cases hstage
  | wake hp hstage hnews =>
    obtain ⟨heard, hasleep, hall⟩ := h _ _ hp
    rw [hasleep] at hstage
    cases hstage
    exact Nat.not_lt.mpr hall hnews
  | enter hp _ hstalled =>
    rw [(h _ _ hp).2] at hstalled
    cases hstalled
  | refuse hp hstage | pass hp hstage | keep hp hstage | tell hp hstage | finish hp hstage =>
    rw [(h _ _ hp).1] at hstage
    cases hstage

end Interleaving

def SendStage.left : SendStage → Nat
  | .start => 5
  | .admitted => 4
  | .passed => 3
  | .kept => 2
  | .told => 1

/-- How many turns a wait has left until it ends or sleeps, if there is no more news. -/
def WaitStage.left (news : Nat) : WaitStage → Nat
  | .start => 2
  | .registered heard => if heard < news then 4 else 1
  | .asleep heard => if heard < news then 3 else 0

namespace Interleaving

variable {r t : Interleaving α} {task : Nat}

def sendLeft (r : Interleaving α) (p : Nat × Task α) : Nat :=
  match p.2 with
  | .send _ => (r.sends p.1).left
  | .wait _ => 0

def waitLeft (r : Interleaving α) (p : Nat × Task α) : Nat :=
  match p.2 with
  | .send _ => 0
  | .wait _ => (r.waits p.1).left r.news

/-- The turns that are left: news wakes the waits, but every send gives news just once. -/
def left (r : Interleaving α) : Nat ×ₗ Nat :=
  toLex ((r.session.pending.map r.sendLeft).sum, (r.session.pending.map r.waitLeft).sum)

/-- One task takes its part of a sum, and the others the rest. -/
theorem sum_filter_add {pending : List (Nat × Task α)} (h : (pending.map Prod.fst).Nodup)
    {todo : Task α} (hp : (task, todo) ∈ pending) (f : Nat × Task α → Nat) :
    ((pending.filter (·.1 != task)).map f).sum + f (task, todo) = (pending.map f).sum := by
  induction pending with
  | nil => cases hp
  | cons p pending ih =>
    rw [List.map_cons, List.nodup_cons] at h
    rcases List.mem_cons.mp hp with rfl | hp
    · have hothers : pending.filter (·.1 != task) = pending := by
        refine List.filter_eq_self.mpr fun other hother => bne_iff_ne.mpr fun heq => ?_
        exact h.1 (List.mem_map.mpr ⟨other, hother, heq⟩)
      simp [hothers, Nat.add_comm]
    · have hne : p.1 ≠ task := by
        rintro rfl
        exact h.1 (List.mem_map.mpr ⟨_, hp, rfl⟩)
      have hrest := ih h.2 hp
      simp only [bne_iff_ne, ne_eq, hne, not_false_eq_true, List.filter_cons_of_pos, List.map_cons,
        List.sum_cons]
      omega

namespace Numbered

variable (h : r.Numbered) {todo : Task α} (hp : (task, todo) ∈ r.session.pending)
include h hp

/-- A sum is less if one task has less to add and the others have the same. -/
theorem sum_lt {f g : Nat × Task α → Nat} (hless : f (task, todo) < g (task, todo))
    (hsame : ∀ p : Nat × Task α, p.1 ≠ task → f p = g p) :
    (r.session.pending.map f).sum < (r.session.pending.map g).sum := by
  have hnodup := (List.nodup_append.mp h.nodup).1
  have hothers : (r.session.pending.filter (·.1 != task)).map f =
      (r.session.pending.filter (·.1 != task)).map g :=
    List.map_congr_left fun p hmem => hsame p (bne_iff_ne.mp (List.mem_filter.mp hmem).2)
  rw [← sum_filter_add hnodup hp f, ← sum_filter_add hnodup hp g, hothers]
  exact Nat.add_lt_add_left hless _

theorem left_setWait {stage : WaitStage} (hless : (r.setWait task stage).waitLeft (task, todo) <
    r.waitLeft (task, todo)) : (r.setWait task stage).left < r.left := by
  refine Prod.Lex.toLex_lt_toLex.mpr (.inr ⟨rfl, h.sum_lt hp hless ?_⟩)
  rintro ⟨other, todo⟩ hne
  simp only [waitLeft, waits_setWait_of_ne hne]
  rfl

theorem left_setSend {stage : SendStage} (hless : (r.setSend task stage).sendLeft (task, todo) <
    r.sendLeft (task, todo)) : (r.setSend task stage).left < r.left := by
  refine Prod.Lex.toLex_lt_toLex.mpr (.inl (h.sum_lt hp hless ?_))
  rintro ⟨other, todo⟩ hne
  simp only [sendLeft, sends_setSend_of_ne hne]

theorem left_finish (hpos : 0 < r.sendLeft (task, todo) ∨ 0 < r.waitLeft (task, todo))
    (outcome : Outcome α) : (r.finish task outcome).left < r.left := by
  have hnodup := (List.nodup_append.mp h.nodup).1
  have hsends := sum_filter_add hnodup hp r.sendLeft
  have hwaits := sum_filter_add hnodup hp r.waitLeft
  refine Prod.Lex.toLex_lt_toLex'.mpr ⟨?_, fun hsame => ?_⟩
  · exact hsends ▸ Nat.le_add_right _ _
  · have hsame' : ((r.session.pending.filter (·.1 != task)).map r.sendLeft).sum =
        (r.session.pending.map r.sendLeft).sum := hsame
    show ((r.session.pending.filter (·.1 != task)).map r.waitLeft).sum <
      (r.session.pending.map r.waitLeft).sum
    omega

end Numbered

/-- Each turn leaves less to do. -/
theorem Turn.left_lt (h : r.Numbered) (ht : r.Turn t) : t.left < r.left := by
  cases ht with
  | register hp hstage =>
    refine h.left_setWait hp ?_
    simp [waitLeft, hstage, WaitStage.left]
  | answer hp hstage =>
    refine h.left_finish hp (.inr ?_) _
    simp only [waitLeft, hstage, WaitStage.left]
    split <;> decide
  | @sleep _ _ heard hp hstage =>
    refine h.left_setWait hp ?_
    by_cases hnews : heard < r.news <;> simp [waitLeft, hstage, WaitStage.left, hnews]
  | wake hp hstage hnews =>
    refine h.left_setWait hp ?_
    simp [waitLeft, hstage, WaitStage.left, hnews]
  | enter hp hstage | pass hp hstage =>
    refine h.left_setSend hp ?_
    simp [sendLeft, hstage, SendStage.left]
  | keep hp hstage =>
    refine Numbered.left_setSend (r := r.keep _) ⟨h.nodup, h.started, h.fresh⟩ hp ?_
    simp [sendLeft, Interleaving.keep, hstage, SendStage.left]
  | tell hp hstage =>
    refine Prod.Lex.toLex_lt_toLex.mpr (.inl (h.sum_lt hp ?_ ?_))
    · simp [sendLeft, hstage, SendStage.left]
    · rintro ⟨other, todo⟩ hne
      simp only [sendLeft, sends_setSend_of_ne hne]
      rfl
  | refuse hp hstage | finish hp hstage =>
    refine h.left_finish hp (.inl ?_) _
    simp [sendLeft, hstage, SendStage.left]

/-- Turns do not go on forever, whatever their order. -/
theorem Numbered.exists_not_turn (h : r.Numbered) (states : Nat → Interleaving α)
    (hr : states 0 = r) : ∃ n, ¬ (states n).Turn (states (n + 1)) := by
  by_contra hall
  push Not at hall
  have hnumbered : ∀ n, (states n).Numbered := by
    intro n
    induction n with
    | zero => exact hr ▸ h
    | succ n ih => exact ih.turn (hall n)
  obtain ⟨n, hn⟩ := WellFounded.not_rel_apply_succ (r := (· < ·)) fun n => (states n).left
  exact hn ((hall n).left_lt (hnumbered n))

end Interleaving
end Pageviews.Store
