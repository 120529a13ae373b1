import Pageviews.Proofs.Store.Rest

/-! A session as one of the interleavings of its tasks. Main statement: what is done at once after a
call can be done in turns, after which all tasks are at rest. -/
namespace Pageviews.Store

variable {α : Type}

def Task.rows? : Task α → Option (List α)
  | .send rows => some rows
  | .wait _ => none

namespace Session

variable {s : Session α}

def refuses (s : Session α) : Bool := s.store.stalled || s.store.fails .sending

theorem sendable_of_refuses (h : s.refuses = true) : s.sendable = [] := if_pos h

theorem sendable_of_not_refuses (h : s.refuses = false) :
    s.sendable = s.pending.filterMap (·.2.rows?) := by
  rw [sendable, if_neg (by simpa [refuses] using h)]
  congr 1
  funext p
  rcases p with ⟨task, _ | _⟩ <;> rfl

end Session

namespace Interleaving

variable {r t : Interleaving α} {task : Nat} {todo : Task α}

/-- A task that can end, or else come to rest, without the others. A send has brought its batch if
it can. -/
def Ready (r : Interleaving α) (task : Nat) : Task α → Prop
  | .wait count => r.waits task = .start ∨ ∃ heard, r.waits task = .asleep heard ∧
      (heard < r.news ∨ r.session.store.sent.length < count)
  | .send _ => r.sends task = if r.session.refuses then .start else .told

structure Alone (r : Interleaving α) (task : Nat) (t : Interleaving α) : Prop where
  run : Run r [] t
  news : t.news = r.news
  waits : ∀ other, other ≠ task → t.waits other = r.waits other
  sends : ∀ other, other ≠ task → t.sends other = r.sends other

namespace Alone

theorem refl : Alone r task r := ⟨.nil, rfl, fun _ _ => rfl, fun _ _ => rfl⟩

theorem setWait (h : Alone r task t) {stage : WaitStage} (ht : t.Turn (t.setWait task stage)) :
    Alone r task (t.setWait task stage) where
  run := h.run.turn ht
  news := h.news
  waits other hne := (waits_setWait_of_ne hne stage).trans (h.waits other hne)
  sends := h.sends

theorem setSend (h : Alone r task t) {stage : SendStage} (ht : t.Turn (t.setSend task stage)) :
    Alone r task (t.setSend task stage) where
  run := h.run.turn ht
  news := h.news
  waits := h.waits
  sends other hne := (sends_setSend_of_ne hne stage).trans (h.sends other hne)

theorem finish (h : Alone r task t) {outcome : Outcome α} (ht : t.Turn (t.finish task outcome)) :
    Alone r task (t.finish task outcome) :=
  ⟨h.run.turn ht, h.news, h.waits, h.sends⟩

end Alone

/-- A wait that is to begin, or is asleep and has not heard all the news, registers. -/
theorem exists_registered {count : Nat} (hp : (task, .wait count) ∈ r.session.pending)
    (h : r.waits task = .start ∨ ∃ heard, r.waits task = .asleep heard ∧ heard < r.news) :
    ∃ t, Alone r task t ∧ t.session = r.session ∧ t.waits task = .registered r.news := by
  rcases h with hstart | ⟨heard, hasleep, hnews⟩
  · exact ⟨_, Alone.refl.setWait (.register hp hstart), rfl, waits_setWait ..⟩
  · exact ⟨_, (Alone.refl.setWait (.wake hp hasleep hnews)).setWait
      (.register hp (waits_setWait ..)), rfl, waits_setWait ..⟩

theorem Ready.exists_finished (h : r.Ready task todo) (hp : (task, todo) ∈ r.session.pending)
    {outcome : Outcome α}
    (ho : r.session.outcome? r.session.store.sent todo = some outcome) :
    ∃ t, Alone r task t ∧ t.session = (r.finish task outcome).session := by
  cases todo with
  | wait count =>
    rw [Session.outcome?, Option.ite_none_right_eq_some, Option.some.injEq] at ho
    obtain ⟨hle, rfl⟩ := ho
    have hgoes : r.waits task = .start ∨ ∃ heard, r.waits task = .asleep heard ∧ heard < r.news :=
      h.imp_right <| Exists.imp fun _ => And.imp_right (·.resolve_right (Nat.not_lt.mpr hle))
    obtain ⟨t, halone, hsession, hstage⟩ := exists_registered hp hgoes
    have ht : t.Turn (t.finish task (.batches t.session.store.sent)) :=
      .answer (hsession ▸ hp) hstage (hsession ▸ hle)
    exact ⟨_, halone.finish ht, by rw [Interleaving.finish, hsession]; rfl⟩
  | send rows =>
    cases hstalled : r.session.store.stalled with
    | true => simp [Session.outcome?, hstalled] at ho
    | false =>
      cases hfails : r.session.store.fails .sending with
      | true =>
        have hstart : r.sends task = .start := by simpa [Ready, Session.refuses, hfails] using h
        obtain rfl : .refused .sending = outcome := by
          simpa [Session.outcome?, hstalled, hfails] using ho
        exact ⟨_, (Alone.refl.setSend (.enter hp hstart hstalled)).finish
          (.refuse hp (sends_setSend ..) hfails), rfl⟩
      | false =>
        have htold : r.sends task = .told := by
          simpa [Ready, Session.refuses, hstalled, hfails] using h
        obtain rfl : .sent = outcome := by
          simpa [Session.outcome?, hstalled, hfails] using ho
        exact ⟨_, Alone.refl.finish (.finish hp htold), rfl⟩

theorem Ready.exists_stuck (h : r.Ready task todo) (hp : (task, todo) ∈ r.session.pending)
    (ho : r.session.outcome? r.session.store.sent todo = none) :
    ∃ t, Alone r task t ∧ t.session = r.session ∧ t.Stuck task todo := by
  cases todo with
  | wait count =>
    have hfew : r.session.store.sent.length < count := by
      simpa [Session.outcome?] using ho
    by_cases hgoes : r.waits task = .start ∨ ∃ heard, r.waits task = .asleep heard ∧ heard < r.news
    · obtain ⟨t, halone, hsession, hstage⟩ := exists_registered hp hgoes
      have ht : t.Turn (t.setWait task (.asleep r.news)) :=
        .sleep (hsession ▸ hp) hstage (hsession ▸ hfew)
      exact ⟨_, halone.setWait ht, hsession, r.news, waits_setWait .., halone.news.le⟩
    · rw [not_or] at hgoes
      obtain ⟨heard, hasleep, -⟩ := h.resolve_left hgoes.1
      exact ⟨r, .refl, rfl, heard, hasleep,
        Nat.le_of_not_lt fun hnews => hgoes.2 ⟨heard, hasleep, hnews⟩⟩
  | send rows =>
    have hstalled : r.session.store.stalled = true := by
      by_contra hgoes
      cases hfails : r.session.store.fails .sending <;>
        simp [Session.outcome?, hgoes, hfails] at ho
    have hstart : r.sends task = .start := by simpa [Ready, Session.refuses, hstalled] using h
    exact ⟨r, .refl, rfl, hstart, hstalled⟩

theorem Alone.ready {other : Nat} (h : Alone r task t) (hne : other ≠ task)
    (hstore : t.session.store = r.session.store) (hready : r.Ready other todo) :
    t.Ready other todo := by
  cases todo with
  | wait count => simpa only [Ready, h.waits other hne, h.news, hstore] using hready
  | send rows =>
    rw [Ready, h.sends other hne, Session.refuses, hstore]
    exact hready

theorem Alone.stuck {other : Nat} (h : Alone r task t) (hne : other ≠ task)
    (hstore : t.session.store = r.session.store) (hstuck : r.Stuck other todo) :
    t.Stuck other todo := by
  cases todo with
  | wait count => simpa only [Stuck, h.waits other hne, h.news] using hstuck
  | send rows => simpa only [Stuck, h.sends other hne, hstore] using hstuck

/-- The tasks go on one after the other: each of them ends, if it can, or comes to rest. -/
theorem exists_atRest (front back : List (Nat × Task α)) (hn : r.Numbered)
    (hpending : r.session.pending = front ++ back)
    (hfront : ∀ p ∈ front, r.Stuck p.1 p.2) (hback : ∀ p ∈ back, r.Ready p.1 p.2) :
    let outcome? := r.session.outcome? r.session.store.sent
    ∃ t, Run r [] t ∧ t.AtRest ∧ t.session = { r.session with
      pending := front ++ back.filter fun p => (outcome? p.2).isNone
      ended := r.session.ended ++ back.filterMap fun p => (outcome? p.2).map (p.1, ·) } := by
  intro outcome?
  induction back generalizing r front with
  | nil =>
    refine ⟨r, .nil, atRest_of_stuck fun task todo hp => ?_, by simp [← hpending]⟩
    rw [hpending, List.append_nil] at hp
    exact hfront _ hp
  | cons p back ih =>
    obtain ⟨task, todo⟩ := p
    have hp : (task, todo) ∈ r.session.pending := by simp [hpending]
    have hnodup := (List.nodup_append.mp hn.nodup).1
    rw [hpending, List.map_append, List.map_cons, List.nodup_middle, List.nodup_cons,
      ← List.map_append] at hnodup
    have hne : ∀ q ∈ front ++ back, q.1 ≠ task := fun q hq heq =>
      hnodup.1 (List.mem_map.mpr ⟨q, hq, heq⟩)
    have hothers {t : Interleaving α} (halone : Alone r task t)
        (hstore : t.session.store = r.session.store) :
        (∀ q ∈ front, t.Stuck q.1 q.2) ∧ ∀ q ∈ back, t.Ready q.1 q.2 :=
      ⟨fun q hq => halone.stuck (hne q (List.mem_append_left _ hq)) hstore (hfront q hq),
        fun q hq => halone.ready (hne q (List.mem_append_right _ hq)) hstore
          (hback q (List.mem_cons_of_mem _ hq))⟩
    have hready := hback _ List.mem_cons_self
    cases ho : outcome? todo with
    | some outcome =>
      obtain ⟨t, halone, hsession⟩ := hready.exists_finished hp ho
      have hstore : t.session.store = r.session.store := by rw [hsession]; rfl
      obtain ⟨hstuck, hready'⟩ := hothers halone hstore
      have hleft : t.session.pending = front ++ back := by
        have hkept : (front ++ back).filter (·.1 != task) = front ++ back :=
          List.filter_eq_self.mpr fun q hq => bne_iff_ne.mpr (hne q hq)
        rw [hsession, finish]
        show r.session.pending.filter (·.1 != task) = _
        rw [hpending, List.filter_append, List.filter_cons_of_neg (by simp), ← List.filter_append,
          hkept]
      obtain ⟨u, hrun, hrest, hu⟩ :=
        ih front (halone.run.numbered hn) hleft hstuck hready'
      refine ⟨u, halone.run.trans hrun, hrest, hu.trans ?_⟩
      have houtcome : t.session.outcome? t.session.store.sent = outcome? := by
        rw [hsession]; rfl
      rw [houtcome, hsession]
      simp [finish, ho]
    | none =>
      obtain ⟨t, halone, hsession, hstuck⟩ := hready.exists_stuck hp ho
      have hstore : t.session.store = r.session.store := by rw [hsession]
      obtain ⟨hstuck', hready'⟩ := hothers halone hstore
      have hleft : t.session.pending = front ++ [(task, todo)] ++ back := by
        rw [hsession, hpending, List.append_assoc, List.singleton_append]
      obtain ⟨u, hrun, hrest, hu⟩ := ih (front ++ [(task, todo)]) (halone.run.numbered hn) hleft
        (List.forall_mem_append.mpr ⟨hstuck', List.forall_mem_singleton.mpr hstuck⟩) hready'
      refine ⟨u, halone.run.trans hrun, hrest, hu.trans ?_⟩
      rw [hsession]
      simp [outcome?, ho]

/-- A send that finds the store going brings its batch and gives the news, all in one go. -/
theorem exists_told_one {rows : List α} (hp : (task, .send rows) ∈ r.session.pending)
    (hgoes : r.session.refuses = false) (hstart : r.sends task = .start) :
    ∃ t, Run r [] t ∧ t.session = (r.keep rows).session ∧ t.waits = r.waits ∧
      t.sends task = .told ∧ ∀ other, other ≠ task → t.sends other = r.sends other := by
  obtain ⟨hstalled, hfails⟩ := Bool.or_eq_false_iff.mp hgoes
  let admitted := r.setSend task .admitted
  let passed := admitted.setSend task .passed
  let kept := (passed.keep rows).setSend task .kept
  let told := kept.announce.setSend task .told
  have henter : r.Turn admitted := .enter hp hstart hstalled
  have hpass : admitted.Turn passed := .pass hp (sends_setSend ..) hfails
  have hkeep : passed.Turn kept := .keep hp (sends_setSend ..)
  have htell : kept.Turn told := .tell hp (sends_setSend ..)
  refine ⟨told, (((Run.nil.turn henter).turn hpass).turn hkeep).turn htell, rfl, rfl,
    sends_setSend .., fun other hne => ?_⟩
  calc told.sends other
      = kept.sends other := sends_setSend_of_ne hne _
    _ = passed.sends other := sends_setSend_of_ne hne _
    _ = admitted.sends other := sends_setSend_of_ne hne _
    _ = r.sends other := sends_setSend_of_ne hne _

/-- The sends bring their batches one after the other. -/
theorem exists_told (todos : List (Nat × Task α)) (hn : (todos.map Prod.fst).Nodup)
    (hpending : ∀ p ∈ todos, p ∈ r.session.pending) (hgoes : r.session.refuses = false)
    (hstart : ∀ task rows, (task, .send rows) ∈ todos → r.sends task = .start) :
    ∃ t, Run r [] t ∧ t.waits = r.waits ∧
      t.session = { r.session with
        store := (todos.filterMap (·.2.rows?)).foldl Store.Memory.keep r.session.store } ∧
      (∀ task rows, (task, .send rows) ∈ todos → t.sends task = .told) ∧
      ∀ task, task ∉ todos.map Prod.fst → t.sends task = r.sends task := by
  induction todos generalizing r with
  | nil => exact ⟨r, .nil, rfl, rfl, nofun, fun _ _ => rfl⟩
  | cons p todos ih =>
    obtain ⟨task, todo⟩ := p
    rw [List.map_cons, List.nodup_cons] at hn
    rw [List.forall_mem_cons] at hpending
    have hlater : ∀ task rows, (task, .send rows) ∈ todos → r.sends task = .start :=
      fun task rows hmem => hstart task rows (List.mem_cons_of_mem _ hmem)
    have hne : ∀ q ∈ todos, q.1 ≠ task := fun q hq heq => hn.1 (List.mem_map.mpr ⟨q, hq, heq⟩)
    cases todo with
    | wait count =>
      obtain ⟨t, hrun, hwaits, hsession, htold, hothers⟩ := ih hn.2 hpending.2 hgoes hlater
      refine ⟨t, hrun, hwaits, hsession, ?_, fun other hother => hothers other ?_⟩
      · intro other rows hmem
        exact htold other rows ((List.mem_cons.mp hmem).resolve_left nofun)
      · exact fun hmem => hother (List.mem_cons_of_mem _ hmem)
    | send rows =>
      obtain ⟨t, hrun, hsession, hwaits, htold, hothers⟩ :=
        exists_told_one hpending.1 hgoes (hstart _ _ List.mem_cons_self)
      obtain ⟨u, hrun', hwaits', hsession', htold', hothers'⟩ := ih (r := t) hn.2
        (fun q hq => by rw [hsession]; exact hpending.2 q hq)
        (by rw [← hgoes, hsession]; rfl)
        (fun other more hmem => (hothers _ (hne _ hmem)).trans (hlater other more hmem))
      refine ⟨u, hrun.trans hrun', hwaits'.trans hwaits, ?_, ?_, ?_⟩
      · rw [hsession', hsession]
        rfl
      · intro other more hmem
        rcases List.mem_cons.mp hmem with heq | hmem
        · cases heq
          rw [hothers' _ hn.1]
          exact htold
        · exact htold' other more hmem
      · intro other hother
        rw [List.map_cons, List.mem_cons, not_or] at hother
        rw [hothers' other hother.2, hothers other hother.1]

/-- Before the waits go on, the sends bring all the batches that the store takes. -/
theorem exists_sent (hn : r.Numbered)
    (hstart : ∀ task rows, (task, .send rows) ∈ r.session.pending → r.sends task = .start) :
    ∃ t, Run r [] t ∧ t.waits = r.waits ∧
      t.session = { r.session with store := r.session.settle.store } ∧
      ∀ task rows, (task, .send rows) ∈ r.session.pending →
        t.sends task = if r.session.refuses then .start else .told := by
  cases hgoes : r.session.refuses with
  | true =>
    refine ⟨r, .nil, rfl, ?_, by simpa using hstart⟩
    rw [Session.store_settle, Session.sendable_of_refuses hgoes, List.append_nil]
  | false =>
    obtain ⟨t, hrun, hwaits, hsession, htold, -⟩ := exists_told r.session.pending
      (List.nodup_append.mp hn.nodup).1 (fun _ => id) hgoes hstart
    refine ⟨t, hrun, hwaits, ?_, by simpa using htold⟩
    rw [hsession, ← Session.sendable_of_not_refuses hgoes]
    rfl

/-- Tasks that are at rest, or that have just been started, go on until they are at rest, and the
session is as it says. -/
theorem exists_settle (hn : r.Numbered) (ha : r.Attentive)
    (hsends : ∀ task rows, (task, .send rows) ∈ r.session.pending → r.sends task = .start)
    (hwaits : ∀ task count, (task, .wait count) ∈ r.session.pending →
      r.waits task = .start ∨ ∃ heard, r.waits task = .asleep heard) :
    ∃ t, Run r [] t ∧ t.AtRest ∧ t.session = r.session.settle := by
  obtain ⟨t, hrun, hsame, hsession, htold⟩ := exists_sent hn hsends
  have hpending : t.session.pending = r.session.pending := by rw [hsession]
  have hstore : t.session.store = r.session.settle.store := by rw [hsession]
  have hrefuses : t.session.refuses = r.session.refuses := by
    rw [Session.refuses, hstore, Session.store_settle]
    rfl
  have houtcome : t.session.outcome? = r.session.outcome? := by
    funext sent task
    rw [← Session.outcome?_settle r.session]
    cases task <;> simp only [Session.outcome?, hstore]
  have howes : ¬ t.OwesNews := by
    rintro ⟨task, rows, hp, hkept⟩
    rw [htold task rows (hpending ▸ hp)] at hkept
    split at hkept <;> cases hkept
  have hready : ∀ p ∈ t.session.pending, t.Ready p.1 p.2 := by
    rintro ⟨task, todo⟩ hp
    cases todo with
    | wait count =>
      rw [Ready, hsame]
      refine (hwaits task count (hpending ▸ hp)).imp_right ?_
      rintro ⟨heard, hasleep⟩
      have hlate := (hrun.attentive hn ha).asleep task count heard hp (hsame ▸ hasleep)
      exact ⟨heard, hasleep, hlate.imp_right (·.resolve_right howes)⟩
    | send rows =>
      rw [Ready, hrefuses]
      exact htold task rows (hpending ▸ hp)
  obtain ⟨u, hrun', hrest, hu⟩ :=
    exists_atRest [] t.session.pending (hrun.numbered hn) rfl (List.forall_mem_nil _) hready
  refine ⟨u, hrun.trans hrun', hrest, hu.trans ?_⟩
  rw [houtcome, hsession]
  rfl

/-- A call, after which the tasks go on until they are at rest. -/
theorem exists_called (hn : r.Numbered) (ha : r.Attentive) (hrest : r.AtRest) {call : Call α}
    {reply : Reply α} {s : Session α} (hp : r.session.Performed call reply s) :
    ∃ t, Run r [⟨call, reply⟩] t ∧ t.AtRest ∧ t.session = s.settle := by
  have hcalled : Run r [⟨call, reply⟩] { r with session := s } := Run.nil.call hp
  have hfresh := hn.fresh _ (Nat.le_refl _)
  have hold {task : Nat} {todo : Task α} (hmem : (task, todo) ∈ s.pending) :
      (task, todo) ∈ r.session.pending ∨ task = r.session.started := by
    rcases hp.tasks with ⟨-, hpending, -⟩ | ⟨added, -, hpending, -⟩
    · exact .inl (hpending ▸ hmem)
    · rw [hpending, List.mem_append, List.mem_singleton, Prod.mk.injEq] at hmem
      exact hmem.imp_right And.left
  obtain ⟨t, hrun, hrest', ht⟩ := exists_settle (hcalled.numbered hn) (hcalled.attentive hn ha)
    (fun task rows hmem => (hold hmem).elim (fun h => (hrest.stuck h).1) (· ▸ hfresh.2))
    (fun task count hmem => (hold hmem).elim
      (fun h => .inr ((hrest.stuck h).imp fun _ => And.left)) (fun h => .inl (h ▸ hfresh.1)))
  exact ⟨t, hcalled.trans hrun, hrest', ht⟩

/-- What a session does when calls are made can be done in turns, so that all tasks are at rest in
between and at the end. -/
theorem exists_run_of_talk? {calls : List (Call α)} {said : List (Exchange α)} {s : Session α}
    (h : r.session.talk? calls = some (said, s)) (hn : r.Numbered) (ha : r.Attentive)
    (hrest : r.AtRest) : ∃ t, Run r said t ∧ t.AtRest ∧ t.session = s := by
  induction calls generalizing r said with
  | nil =>
    obtain ⟨rfl, rfl⟩ : [] = said ∧ r.session = s := by simpa [Session.talk?] using h
    exact ⟨r, .nil, hrest, rfl⟩
  | cons call calls ih =>
    obtain ⟨u, reply, rest, hcall, htalk, rfl⟩ := Session.exists_of_talk?_cons h
    obtain ⟨v, hp, rfl⟩ := Session.call?_eq_some_iff.mp hcall
    obtain ⟨t, hrun, hrest', ht⟩ := exists_called hn ha hrest hp
    obtain ⟨w, hrun', hw⟩ :=
      ih (ht ▸ htalk) (hrun.numbered hn) (hrun.attentive hn ha) hrest'
    exact ⟨w, hrun.trans hrun', hw⟩

end Interleaving
end Pageviews.Store
