import Pageviews.Proofs.Store.Schedule

/-! Waiting for batches. Main statement: however the turns of tasks and calls interleave, no task
goes on waiting when the batches that it waits for have been sent. -/
namespace Pageviews.Store.Interleaving

variable {α : Type} {r t : Interleaving α} {said more : List (Exchange α)} {task : Nat}

/-- Every task that was to wait goes on, or has ended with enough batches, which the store had. -/
structure Awaited (said : List (Exchange α)) (r : Interleaving α) : Prop where
  waits : ∀ task count, (task, count) ∈ waitsIn said → (task, .wait count) ∈ r.session.pending ∨
    ∃ sent, (task, .batches sent) ∈ r.session.ended ∧ count ≤ sent.length
  listed : ∀ task sent, (task, .batches sent) ∈ r.session.ended → sent <+: r.session.store.sent

namespace Awaited

/-- A turn with which no task ends. -/
theorem goOn (h : Awaited said r) (hpending : t.session.pending = r.session.pending)
    (hended : t.session.ended = r.session.ended)
    (hsent : r.session.store.sent <+: t.session.store.sent) : Awaited said t where
  waits := by
    rw [hpending, hended]
    exact h.waits
  listed := by
    rw [hended]
    exact fun task sent he => (h.listed task sent he).trans hsent

theorem finish (h : Awaited said r) {outcome : Outcome α}
    (hwait : ∀ count, (task, .wait count) ∈ r.session.pending →
      ∃ sent, outcome = .batches sent ∧ count ≤ sent.length)
    (hsent : ∀ sent, outcome = .batches sent → sent <+: r.session.store.sent) :
    Awaited said (r.finish task outcome) where
  waits other count hw := by
    rcases h.waits other count hw with hp | ⟨sent, he, hle⟩
    · by_cases hne : other = task
      · subst hne
        obtain ⟨sent, rfl, hle⟩ := hwait count hp
        exact .inr ⟨sent, List.mem_append_right _ (List.mem_singleton.mpr rfl), hle⟩
      · exact .inl (List.mem_filter.mpr ⟨hp, bne_iff_ne.mpr hne⟩)
    · exact .inr ⟨sent, List.mem_append_left _ he, hle⟩
  listed other sent he := by
    rcases List.mem_append.mp he with he | he
    · exact h.listed other sent he
    · exact hsent sent (Prod.mk.inj (List.mem_singleton.mp he)).2.symm

theorem turn (h : Awaited said r) (hn : r.Numbered) (ht : r.Turn t) : Awaited said t := by
  cases ht with
  | register | sleep | wake | enter | pass | tell => exact h.goOn rfl rfl (List.prefix_refl _)
  | keep => exact h.goOn rfl rfl (List.prefix_append _ _)
  | answer hp hplace hcount =>
    refine h.finish (fun count hp' => ⟨_, rfl, ?_⟩) ?_
    · cases hn.pending_unique hp hp'
      exact hcount
    · rintro _ ⟨⟩
      exact List.prefix_refl _
  | refuse hp | finish hp =>
    exact h.finish (fun count hp' => nomatch hn.pending_unique hp hp') nofun

theorem performed (h : Awaited said r) {s : Session α} {call : Call α} {reply : Reply α}
    (hp : r.session.Performed call reply s) :
    Awaited (said ++ [⟨call, reply⟩]) { r with session := s } where
  waits task count hw := by
    rw [hp.ended]
    rcases hp.tasks with ⟨-, hpending, hnone⟩ | ⟨todo, -, hpending, hwait⟩
    · rw [mem_waitsIn_snoc, hnone] at hw
      rw [hpending]
      exact h.waits task count (hw.resolve_right nofun)
    · rw [hpending]
      rcases mem_waitsIn_snoc.mp hw with hold | hnew
      · exact (h.waits task count hold).imp_left (List.mem_append_left _)
      · obtain ⟨rfl, rfl⟩ := (hwait _).mp hnew
        exact .inl (List.mem_append_right _ (List.mem_singleton.mpr rfl))
  listed := by
    rw [hp.ended, hp.sent]
    exact h.listed

end Awaited

theorem Turn.sent (ht : r.Turn t) : r.session.store.sent <+: t.session.store.sent := by
  cases ht with
  | keep => exact List.prefix_append _ _
  | _ => exact List.prefix_refl _

/-- The batches that the store has stay in it, and in their places. -/
theorem Run.sent (h : Run r said t) : r.session.store.sent <+: t.session.store.sent := by
  induction h with
  | nil => exact List.prefix_refl _
  | call _ hp ih => exact hp.sent ▸ ih
  | turn _ ht ih => exact ih.trans ht.sent

theorem Run.awaited (h : Run new said r) : Awaited said r := by
  induction h with
  | nil => exact ⟨nofun, nofun⟩
  | call _ hp ih => exact ih.performed hp
  | turn h ht ih => exact ih.turn (h.numbered numbered_new) ht

theorem AtRest.not_owesNews (h : r.AtRest) : ¬ r.OwesNews := by
  rintro ⟨sender, rows, hp, hstage⟩
  exact h _ (.tell hp hstage)

theorem AtRest.pending_iff (h : r.AtRest) (hrun : Run new said r) {count : Nat}
    (hw : (task, count) ∈ waitsIn said) :
    (task, .wait count) ∈ r.session.pending ↔ r.session.store.sent.length < count := by
  constructor
  · intro hp
    obtain ⟨heard, hstage, hnews⟩ := h.stuck hp
    have ha := hrun.attentive numbered_new attentive_new
    rcases ha.asleep task count heard hp hstage with hless | hfew | howes
    · exact absurd hless (Nat.not_lt.mpr hnews)
    · exact hfew
    · exact absurd howes h.not_owesNews
  · intro hfew
    refine (hrun.awaited.waits task count hw).resolve_right ?_
    rintro ⟨sent, he, hle⟩
    have hprefix := (hrun.awaited.listed task sent he).length_le
    omega

/-- What the tasks that wait for batches can rely on, after calls and turns in any order. -/
structure Reliable (said : List (Exchange α)) (r : Interleaving α) : Prop where
  /-- At rest those wait for whom there are too few batches, and no others. -/
  pending_iff : r.AtRest → ∀ task count, (task, count) ∈ waitsIn said →
    ((task, .wait count) ∈ r.session.pending ↔ r.session.store.sent.length < count)
  /-- Who does not wait has an answer, and nobody has two. -/
  answered : ∀ task count, (task, count) ∈ waitsIn said →
    ((task, .wait count) ∉ r.session.pending ↔ ∃! outcome, (task, outcome) ∈ r.session.ended)
  /-- An answer has enough batches, and is what the store begins with from then on. -/
  answer : ∀ task count, (task, count) ∈ waitsIn said →
    ∀ outcome, (task, outcome) ∈ r.session.ended →
      ∃ sent, outcome = .batches sent ∧ count ≤ sent.length ∧
        ∀ more t, Run r more t → sent <+: t.session.store.sent
  /-- Whoever takes turns, there is rest before long. -/
  exists_not_turn : ∀ states : Nat → Interleaving α, states 0 = r →
    ∃ n, ¬ (states n).Turn (states (n + 1))

theorem Run.reliable (h : Run new said r) : Reliable said r where
  pending_iff hrest _ _ := hrest.pending_iff h
  answered task count hw := by
    have hn := h.numbered numbered_new
    constructor
    · intro hnot
      obtain ⟨sent, he, -⟩ := (h.awaited.waits task count hw).resolve_left hnot
      exact ⟨_, he, fun _ he' => hn.ended_unique he' he⟩
    · rintro ⟨outcome, he, -⟩ hp
      exact hn.not_ended hp outcome he
  answer task count hw outcome he := by
    have hn := h.numbered numbered_new
    obtain hp | ⟨sent, he', hle⟩ := h.awaited.waits task count hw
    · exact absurd he (hn.not_ended hp outcome)
    · exact ⟨sent, hn.ended_unique he he', hle,
        fun more t hlater => (h.awaited.listed task sent he').trans hlater.sent⟩
  exists_not_turn := (h.numbered numbered_new).exists_not_turn

/-- No send is missed, whatever is called and in whichever order the tasks go on; and a session that
answers every call at once and then ends what can end is one of the ways to go on. -/
theorem wait_misses_no_send :
    (∀ (said : List (Exchange α)) (r : Interleaving α), Run new said r → Reliable said r) ∧
    ∀ calls said (s : Session α), Session.new.talk? calls = some (said, s) →
      ∃ r, Run new said r ∧ r.AtRest ∧ r.session = s ∧
        ∀ calls more t, s.talk? calls = some (more, t) →
          ∃ u, Run r more u ∧ u.AtRest ∧ u.session = t := by
  refine ⟨fun said r h => h.reliable, fun calls said s h => ?_⟩
  obtain ⟨r, hrun, hrest, rfl⟩ := exists_run_of_talk? (r := new) h numbered_new attentive_new
    (atRest_of_stuck nofun)
  exact ⟨r, hrun, hrest, rfl, fun calls more t hlater => exists_run_of_talk? hlater
    (hrun.numbered numbered_new) (hrun.attentive numbered_new attentive_new) hrest⟩

/-- Of two tasks that wait while the store stalls, one gets its batch when the store goes on. -/
theorem wait_misses_no_send_stalled :
    let calls : List (Call Nat) :=
      [.stall, .openBatch, .append 0 7, .wait 2, .wait 1, .send 0, .resume]
    ∃ said s, Session.new.talk? calls = some (said, s) ∧ ∃ r, Run new said r ∧ r.AtRest ∧
      r.session = s ∧ Reliable said r ∧ (0, 2) ∈ waitsIn said ∧ (1, 1) ∈ waitsIn said ∧
      (0, .wait 2) ∈ r.session.pending ∧ (1, .batches [[7]]) ∈ r.session.ended := by
  intro calls
  have heval : (Session.new.talk? calls).map
      (fun p => (waitsIn p.1, p.2.store.sent, p.2.ended)) =
        some ([(0, 2), (1, 1)], [[7]], [(1, .batches [[7]]), (2, .sent)]) := by rfl
  obtain ⟨⟨said, s⟩, htalk, heq⟩ := Option.map_eq_some_iff.mp heval
  simp only [Prod.mk.injEq] at heq
  obtain ⟨hwaits, hsent, hended⟩ := heq
  obtain ⟨r, hrun, hrest, rfl, -⟩ := wait_misses_no_send.2 calls said s htalk
  have hreliable := wait_misses_no_send.1 said r hrun
  have hfirst : (0, 2) ∈ waitsIn said := by simp [hwaits]
  refine ⟨said, _, htalk, r, hrun, hrest, rfl, hreliable, hfirst, by simp [hwaits], ?_, ?_⟩
  · exact (hreliable.pending_iff hrest 0 2 hfirst).mpr (by simp [hsent])
  · simp [hended]

end Pageviews.Store.Interleaving
