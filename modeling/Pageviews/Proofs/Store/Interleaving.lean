import Mathlib.Logic.Function.Basic
import Pageviews.Proofs.Store.BatchLog

/-!
Sessions whose tasks go on in turn, in any order and between any calls. In its turn a wait registers
for news, counts the batches, or goes to sleep until there is news; a send looks whether the store
stalls and whether it fails, brings its batch, and gives the news of it. Main statements: no task
has heard of news that has not been given, and who sleeps will hear of every batch that comes.
-/
namespace Pageviews.Store

variable {α : Type}

/-- Where a wait stands between its turns. -/
inductive WaitStage where
  | start
  /-- It has registered when there had been so much news, and counts the batches next. -/
  | registered (heard : Nat)
  /-- It has counted too few, and sleeps until there is more news than it has heard. -/
  | asleep (heard : Nat)

/-- Where a send stands between its turns. -/
inductive SendStage where
  | start
  /-- It has found a store that does not stall, and sees next whether it fails. -/
  | admitted
  /-- It brings its batch next. -/
  | passed
  /-- It has brought its batch, and gives the news next. -/
  | kept
  /-- It has given the news. -/
  | told

/-- A session, where its tasks stand, and how often there has been news of a batch. -/
structure Interleaving (α : Type) where
  session : Session α
  /-- Where the waits stand, by the numbers of the tasks. -/
  waits : Nat → WaitStage
  sends : Nat → SendStage
  news : Nat

namespace Interleaving

def new : Interleaving α := ⟨.new, fun _ => .start, fun _ => .start, 0⟩

def setWait (r : Interleaving α) (task : Nat) (stage : WaitStage) : Interleaving α :=
  { r with waits := Function.update r.waits task stage }

def setSend (r : Interleaving α) (task : Nat) (stage : SendStage) : Interleaving α :=
  { r with sends := Function.update r.sends task stage }

def finish (r : Interleaving α) (task : Nat) (outcome : Outcome α) : Interleaving α :=
  { r with
    session := { r.session with
      pending := r.session.pending.filter (·.1 != task)
      ended := r.session.ended ++ [(task, outcome)] } }

def keep (r : Interleaving α) (rows : List α) : Interleaving α :=
  { r with session := { r.session with store := r.session.store.keep rows } }

/-- All who have registered hear that there is a batch; who registers later does not. -/
def announce (r : Interleaving α) : Interleaving α := { r with news := r.news + 1 }

inductive Turn (r : Interleaving α) : Interleaving α → Prop where
  | register {task count : Nat} (hp : (task, .wait count) ∈ r.session.pending)
      (hstage : r.waits task = .start) : Turn r (r.setWait task (.registered r.news))
  | answer {task count heard : Nat} (hp : (task, .wait count) ∈ r.session.pending)
      (hstage : r.waits task = .registered heard)
      (hcount : count ≤ r.session.store.sent.length) :
      Turn r (r.finish task (.batches r.session.store.sent))
  | sleep {task count heard : Nat} (hp : (task, .wait count) ∈ r.session.pending)
      (hstage : r.waits task = .registered heard)
      (hcount : r.session.store.sent.length < count) : Turn r (r.setWait task (.asleep heard))
  | wake {task count heard : Nat} (hp : (task, .wait count) ∈ r.session.pending)
      (hstage : r.waits task = .asleep heard) (hnews : heard < r.news) :
      Turn r (r.setWait task .start)
  | enter {task : Nat} {rows : List α} (hp : (task, .send rows) ∈ r.session.pending)
      (hstage : r.sends task = .start) (hstalled : r.session.store.stalled = false) :
      Turn r (r.setSend task .admitted)
  | refuse {task : Nat} {rows : List α} (hp : (task, .send rows) ∈ r.session.pending)
      (hstage : r.sends task = .admitted) (hfails : r.session.store.fails .sending = true) :
      Turn r (r.finish task (.refused .sending))
  | pass {task : Nat} {rows : List α} (hp : (task, .send rows) ∈ r.session.pending)
      (hstage : r.sends task = .admitted) (hfails : r.session.store.fails .sending = false) :
      Turn r (r.setSend task .passed)
  | keep {task : Nat} {rows : List α} (hp : (task, .send rows) ∈ r.session.pending)
      (hstage : r.sends task = .passed) : Turn r ((r.keep rows).setSend task .kept)
  | tell {task : Nat} {rows : List α} (hp : (task, .send rows) ∈ r.session.pending)
      (hstage : r.sends task = .kept) : Turn r (r.announce.setSend task .told)
  | finish {task : Nat} {rows : List α} (hp : (task, .send rows) ∈ r.session.pending)
      (hstage : r.sends task = .told) : Turn r (r.finish task .sent)

def AtRest (r : Interleaving α) : Prop := ∀ t, ¬ r.Turn t

/-- What comes after a state, and what is said in between. A call is made at once, since all that it
changes besides the settings and the list of tasks belongs to the caller alone. -/
inductive Run (r : Interleaving α) : List (Exchange α) → Interleaving α → Prop where
  | nil : Run r [] r
  | call {said : List (Exchange α)} {t : Interleaving α} {s : Session α} {call : Call α}
      {reply : Reply α} (h : Run r said t) (hp : t.session.Performed call reply s) :
      Run r (said ++ [⟨call, reply⟩]) { t with session := s }
  | turn {said : List (Exchange α)} {t u : Interleaving α} (h : Run r said t) (ht : t.Turn u) :
      Run r said u

variable {r t u : Interleaving α} {said more : List (Exchange α)} {task other : Nat}

theorem Run.trans (h : Run r said t) (h' : Run t more u) : Run r (said ++ more) u := by
  induction h' with
  | nil =>
    rw [List.append_nil]
    exact h
  | call _ hp ih =>
    rw [← List.append_assoc]
    exact ih.call hp
  | turn _ ht ih => exact ih.turn ht

@[simp] theorem waits_setWait (r : Interleaving α) (task : Nat) (stage : WaitStage) :
    (r.setWait task stage).waits task = stage := Function.update_self ..

@[simp] theorem news_setWait (r : Interleaving α) (task : Nat) (stage : WaitStage) :
    (r.setWait task stage).news = r.news := rfl

theorem waits_setWait_of_ne (hne : other ≠ task) (stage : WaitStage) :
    (r.setWait task stage).waits other = r.waits other := Function.update_of_ne hne ..

@[simp] theorem sends_setSend (r : Interleaving α) (task : Nat) (stage : SendStage) :
    (r.setSend task stage).sends task = stage := Function.update_self ..

theorem sends_setSend_of_ne (hne : other ≠ task) (stage : SendStage) :
    (r.setSend task stage).sends other = r.sends other := Function.update_of_ne hne ..

end Interleaving

/-- The task that waits for batches, and for how many. -/
def Exchange.wait? : Exchange α → Option (Nat × Nat)
  | ⟨.wait count, .started task⟩ => some (task, count)
  | _ => none

def waitsIn (said : List (Exchange α)) : List (Nat × Nat) := said.filterMap Exchange.wait?

theorem mem_waitsIn_snoc {said : List (Exchange α)} {e : Exchange α} {wait : Nat × Nat} :
    wait ∈ waitsIn (said ++ [e]) ↔ wait ∈ waitsIn said ∨ e.wait? = some wait := by
  simp [waitsIn, List.filterMap_append]

/-- A call starts no task, or the next one. -/
theorem Session.Performed.tasks {s t : Session α} {call : Call α} {reply : Reply α}
    (hp : s.Performed call reply t) :
    (t.started = s.started ∧ t.pending = s.pending ∧ (Exchange.mk call reply).wait? = none) ∨
    ∃ task : Task α, t.started = s.started + 1 ∧ t.pending = s.pending ++ [(s.started, task)] ∧
      ∀ wait, (Exchange.mk call reply).wait? = some wait ↔
        wait.1 = s.started ∧ task = .wait wait.2 := by
  cases hp with
  | sending hb => exact .inr ⟨_, rfl, rfl, by simp [Exchange.wait?]⟩
  | waiting count =>
    refine .inr ⟨_, rfl, rfl, fun wait => ?_⟩
    simp [Exchange.wait?, Prod.ext_iff, eq_comm]
  | _ => exact .inl ⟨rfl, rfl, rfl⟩

namespace Interleaving

variable {r t : Interleaving α} {said : List (Exchange α)} {task : Nat} {s : Session α}
  {call : Call α} {reply : Reply α}

/-- Tasks have numbers of their own, and none has gone anywhere before it has been started. -/
structure Numbered (r : Interleaving α) : Prop where
  nodup : (r.session.pending.map Prod.fst ++ r.session.ended.map Prod.fst).Nodup
  started : ∀ task ∈ r.session.pending.map Prod.fst ++ r.session.ended.map Prod.fst,
    task < r.session.started
  fresh : ∀ task, r.session.started ≤ task → r.waits task = .start ∧ r.sends task = .start

namespace Numbered

theorem lt_started (h : r.Numbered) {todo : Task α} (hp : (task, todo) ∈ r.session.pending) :
    task < r.session.started :=
  h.started task (List.mem_append_left _ (List.mem_map.mpr ⟨_, hp, rfl⟩))

theorem pending_unique (h : r.Numbered) {todo other : Task α}
    (hp : (task, todo) ∈ r.session.pending) (hp' : (task, other) ∈ r.session.pending) :
    todo = other :=
  congrArg Prod.snd (List.inj_on_of_nodup_map (List.nodup_append.mp h.nodup).1 hp hp' rfl)

theorem ended_unique (h : r.Numbered) {outcome other : Outcome α}
    (he : (task, outcome) ∈ r.session.ended) (he' : (task, other) ∈ r.session.ended) :
    outcome = other :=
  congrArg Prod.snd (List.inj_on_of_nodup_map (List.nodup_append.mp h.nodup).2.1 he he' rfl)

theorem not_ended (h : r.Numbered) {todo : Task α} (hp : (task, todo) ∈ r.session.pending)
    (outcome : Outcome α) : (task, outcome) ∉ r.session.ended := fun he =>
  (List.nodup_append.mp h.nodup).2.2 task (List.mem_map.mpr ⟨_, hp, rfl⟩) task
    (List.mem_map.mpr ⟨_, he, rfl⟩) rfl

theorem setWait (h : r.Numbered) (hlt : task < r.session.started) (stage : WaitStage) :
    (r.setWait task stage).Numbered where
  nodup := h.nodup
  started := h.started
  fresh other hle := by
    rw [waits_setWait_of_ne (Nat.ne_of_gt (Nat.lt_of_lt_of_le hlt hle))]
    exact h.fresh other hle

theorem setSend (h : r.Numbered) (hlt : task < r.session.started) (stage : SendStage) :
    (r.setSend task stage).Numbered where
  nodup := h.nodup
  started := h.started
  fresh other hle := by
    rw [sends_setSend_of_ne (Nat.ne_of_gt (Nat.lt_of_lt_of_le hlt hle))]
    exact h.fresh other hle

theorem perm_finish (h : r.Numbered) {todo : Task α} (hp : (task, todo) ∈ r.session.pending)
    (outcome : Outcome α) :
    ((r.finish task outcome).session.pending.map Prod.fst ++
        (r.finish task outcome).session.ended.map Prod.fst).Perm
      (r.session.pending.map Prod.fst ++ r.session.ended.map Prod.fst) := by
  have hnodup := (List.nodup_append.mp h.nodup).1
  have herase : (r.session.pending.filter (·.1 != task)).map Prod.fst =
      (r.session.pending.map Prod.fst).erase task := by
    rw [hnodup.erase_eq_filter, List.filter_map]
    rfl
  have hmem : task ∈ r.session.pending.map Prod.fst := List.mem_map.mpr ⟨_, hp, rfl⟩
  rw [Interleaving.finish, herase, List.map_append, List.map_singleton]
  calc (r.session.pending.map Prod.fst).erase task ++ (r.session.ended.map Prod.fst ++ [task])
      |>.Perm (task :: ((r.session.pending.map Prod.fst).erase task ++
        r.session.ended.map Prod.fst)) := by
        rw [← List.append_assoc]
        exact List.perm_append_singleton _ _
    _ |>.Perm _ := (List.perm_cons_erase hmem).symm.append_right _

theorem finish (h : r.Numbered) {todo : Task α} (hp : (task, todo) ∈ r.session.pending)
    (outcome : Outcome α) : (r.finish task outcome).Numbered where
  nodup := (h.perm_finish hp outcome).nodup_iff.mpr h.nodup
  started other hmem := h.started other ((h.perm_finish hp outcome).mem_iff.mp hmem)
  fresh := h.fresh

theorem turn (h : r.Numbered) (ht : r.Turn t) : t.Numbered := by
  cases ht with
  | register hp | sleep hp | wake hp => exact h.setWait (h.lt_started hp) _
  | enter hp | pass hp => exact h.setSend (h.lt_started hp) _
  | keep hp =>
    exact setSend (r := r.keep _) ⟨h.nodup, h.started, h.fresh⟩ (h.lt_started hp) _
  | tell hp =>
    exact setSend (r := r.announce) ⟨h.nodup, h.started, h.fresh⟩ (h.lt_started hp) _
  | answer hp | refuse hp | finish hp => exact h.finish hp _

theorem performed (h : r.Numbered) (hp : r.session.Performed call reply s) :
    Numbered { r with session := s } := by
  rcases hp.tasks with ⟨hstarted, hpending, -⟩ | ⟨todo, hstarted, hpending, -⟩
  · exact {
      nodup := by rw [hpending, hp.ended]; exact h.nodup
      started := by rw [hpending, hp.ended, hstarted]; exact h.started
      fresh := by rw [hstarted]; exact h.fresh }
  · have hperm : (s.pending.map Prod.fst ++ s.ended.map Prod.fst).Perm
        (r.session.started ::
          (r.session.pending.map Prod.fst ++ r.session.ended.map Prod.fst)) := by
      rw [hpending, hp.ended, List.map_append, List.append_assoc]
      exact List.perm_middle
    have hnew : r.session.started ∉
        r.session.pending.map Prod.fst ++ r.session.ended.map Prod.fst :=
      fun hmem => Nat.lt_irrefl _ (h.started _ hmem)
    exact {
      nodup := hperm.nodup_iff.mpr (List.nodup_cons.mpr ⟨hnew, h.nodup⟩)
      started := by
        intro other hmem
        rw [hstarted]
        rcases List.mem_cons.mp (hperm.mem_iff.mp hmem) with rfl | hold
        · exact Nat.lt_succ_self _
        · exact Nat.lt_succ_of_lt (h.started other hold)
      fresh := by
        intro other hle
        rw [hstarted] at hle
        exact h.fresh other (Nat.le_of_succ_le hle) }

end Numbered

def HasHeard (r : Interleaving α) (task heard : Nat) : Prop :=
  r.waits task = .registered heard ∨ r.waits task = .asleep heard

/-- A send has brought its batch and has not yet given the news. -/
def OwesNews (r : Interleaving α) : Prop :=
  ∃ task rows, (task, .send rows) ∈ r.session.pending ∧ r.sends task = .kept

/-- Nobody has heard more news than there has been. Who sleeps and has enough batches will wake:
there has been news since, or it is owed. -/
structure Attentive (r : Interleaving α) : Prop where
  heard : ∀ task heard, r.HasHeard task heard → heard ≤ r.news
  asleep : ∀ task count heard, (task, .wait count) ∈ r.session.pending →
    r.waits task = .asleep heard →
    heard < r.news ∨ r.session.store.sent.length < count ∨ r.OwesNews

namespace Attentive

theorem setWait (h : r.Attentive) {stage : WaitStage}
    (hheard : ∀ heard, stage = .registered heard ∨ stage = .asleep heard → heard ≤ r.news)
    (hasleep : ∀ count heard, (task, .wait count) ∈ r.session.pending → stage = .asleep heard →
      r.session.store.sent.length < count) : (r.setWait task stage).Attentive where
  heard other heard hother := by
    by_cases hne : other = task
    · subst hne
      rw [HasHeard, waits_setWait] at hother
      exact hheard heard hother
    · rw [HasHeard, waits_setWait_of_ne hne] at hother
      exact h.heard other heard hother
  asleep other count heard hp hother := by
    by_cases hne : other = task
    · subst hne
      rw [waits_setWait] at hother
      exact .inr (.inl (hasleep count heard hp hother))
    · rw [waits_setWait_of_ne hne] at hother
      exact h.asleep other count heard hp hother

/-- A send that owes no news goes on. -/
theorem setSend (h : r.Attentive) (hstage : r.sends task ≠ .kept) (stage : SendStage) :
    (r.setSend task stage).Attentive where
  heard := h.heard
  asleep other count heard hp hother := by
    refine (h.asleep other count heard hp hother).imp_right (Or.imp_right ?_)
    rintro ⟨sender, rows, hsender, hkept⟩
    refine ⟨sender, rows, hsender, ?_⟩
    rwa [sends_setSend_of_ne]
    rintro rfl
    exact hstage hkept

theorem finish (h : r.Attentive) (hkept : ∀ rows, (task, .send rows) ∈ r.session.pending →
    r.sends task ≠ .kept) (outcome : Outcome α) : (r.finish task outcome).Attentive where
  heard := h.heard
  asleep other count heard hp hother := by
    refine (h.asleep other count heard (List.mem_filter.mp hp).1 hother).imp_right (Or.imp_right ?_)
    rintro ⟨sender, rows, hsender, hstage⟩
    refine ⟨sender, rows, List.mem_filter.mpr ⟨hsender, ?_⟩, hstage⟩
    rw [bne_iff_ne]
    rintro rfl
    exact hkept rows hsender hstage

theorem turn (h : r.Attentive) (hn : r.Numbered) (ht : r.Turn t) : t.Attentive := by
  cases ht with
  | register => exact h.setWait (by simp) (by simp)
  | wake => exact h.setWait (by simp) (by simp)
  | sleep hp hstage hcount =>
    refine h.setWait ?_ ?_
    · rintro heard (heq | heq)
      · cases heq
      · cases heq
        exact h.heard _ _ (.inl hstage)
    · intro count heard hp' _
      cases hn.pending_unique hp hp'
      exact hcount
  | answer hp => exact h.finish (fun rows hp' => nomatch hn.pending_unique hp hp') _
  | refuse hp hstage | finish hp hstage => exact h.finish (fun _ _ => by simp [hstage]) _
  | enter hp hstage | pass hp hstage => exact h.setSend (by simp [hstage]) _
  | keep hp => exact ⟨h.heard, fun _ _ _ _ _ => .inr (.inr ⟨_, _, hp, sends_setSend ..⟩)⟩
  | tell =>
    have hbefore (other heard : Nat) (hother : r.HasHeard other heard) : heard < r.news + 1 :=
      Nat.lt_succ_of_le (h.heard other heard hother)
    exact ⟨fun other heard hother => Nat.le_of_lt (hbefore other heard hother),
      fun other _ heard _ hother => .inl (hbefore other heard (.inr hother))⟩

theorem performed (h : r.Attentive) (hn : r.Numbered) (hp : r.session.Performed call reply s) :
    Attentive { r with session := s } where
  heard := h.heard
  asleep other count heard hother hstage := by
    have hold : (other, Task.wait count) ∈ r.session.pending := by
      rcases hp.tasks with ⟨-, hpending, -⟩ | ⟨todo, -, hpending, -⟩
      · rwa [hpending] at hother
      · rw [hpending, List.mem_append, List.mem_singleton] at hother
        refine hother.resolve_right fun heq => ?_
        -- who has just been started does not sleep
        obtain ⟨rfl, -⟩ := Prod.mk.inj heq
        have hstart := (hn.fresh _ (Nat.le_refl _)).1
        rw [hstart] at hstage
        cases hstage
    rw [hp.sent]
    refine (h.asleep other count heard hold hstage).imp_right (Or.imp_right ?_)
    rintro ⟨sender, rows, hsender, hkept⟩
    refine ⟨sender, rows, ?_, hkept⟩
    rcases hp.tasks with ⟨-, hpending, -⟩ | ⟨todo, -, hpending, -⟩
    · rwa [hpending]
    · rw [hpending]
      exact List.mem_append_left _ hsender

end Attentive

theorem numbered_new : (new : Interleaving α).Numbered :=
  ⟨List.nodup_nil, nofun, fun _ _ => ⟨rfl, rfl⟩⟩

theorem attentive_new : (new : Interleaving α).Attentive :=
  ⟨by simp [HasHeard, new], nofun⟩

theorem Run.numbered (h : Run r said t) (hn : r.Numbered) : t.Numbered := by
  induction h with
  | nil => exact hn
  | call _ hp ih => exact ih.performed hp
  | turn _ ht ih => exact ih.turn ht

theorem Run.attentive (h : Run r said t) (hn : r.Numbered) (ha : r.Attentive) : t.Attentive := by
  induction h with
  | nil => exact ha
  | call h hp ih => exact ih.performed (h.numbered hn) hp
  | turn h ht ih => exact ih.turn (h.numbered hn) ht

end Interleaving
end Pageviews.Store
