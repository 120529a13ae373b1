import Pageviews.Proofs.Writer.OnTime

/-! A writer that nobody has asked to end, over a store that takes everything at once. Main
statements: it accepts a row as soon as it is offered, and a shutdown leaves every row in the
store. -/
namespace Pageviews.Writer

variable {α : Type}

/-- A step that neither hinders the store nor lets the loop end. -/
def Step.Feeds : Step α → Prop
  | store _ | advance _ | resume | look => True
  | _ => False

theorem Step.Feeds.plain {step : Step α} (h : step.Feeds) : step.Plain := by
  cases step with
  | stall | slowAppends | failOn => exact h
  | _ => trivial

theorem Step.Feeds.seals_eq_false {step : Step α} (h : step.Feeds) : step.seals = false := by
  cases step with
  | shutdown | drop => cases h
  | _ => rfl

/-- The run since a writer was made has only fed it. -/
structure Fed (start s : State α) (events : List (Event α)) : Prop where
  path : Path start events s
  feeds : ∀ step ∈ events.filterMap Event.step?, step.Feeds

namespace Fed

variable {start s t : State α} {events more : List (Event α)} {policy : Policy}

theorem append (h : Fed start s events) (hp : Path s more t)
    (hm : ∀ step ∈ more.filterMap Event.step?, step.Feeds) : Fed start t (events ++ more) := by
  constructor
  · exact h.path.trans hp
  · intro step hstep
    rw [List.filterMap_append] at hstep
    rcases List.mem_append.mp hstep with hstep | hstep
    · exact h.feeds step hstep
    · exact hm step hstep

theorem batched (hs : State.spawn? policy = some start) (h : Fed start s events) :
    Prompt s ∧ Batched s :=
  h.path.batched hs fun step hstep => (h.feeds step hstep).plain

theorem isAsked_eq_false (hs : State.spawn? policy = some start) (h : Fed start s events) :
    s.isAsked = false := by
  rw [h.path.isAsked_eq hs, List.any_eq_false]
  intro step hstep
  simp [(h.feeds step hstep).seals_eq_false]

theorem held_eq_true (hs : State.spawn? policy = some start) (h : Fed start s events) :
    s.held = true := by
  have ha := h.isAsked_eq_false hs
  simp only [State.isAsked, Bool.or_eq_false_iff, Bool.not_eq_false'] at ha
  exact ha.2

/-- The loop goes on, and the queue is open. -/
theorem isClosed_eq_false (hs : State.spawn? policy = some start) (h : Fed start s events) :
    s.isClosed = false := by
  have hd : s.draining = false := by
    by_contra hd
    have ha := h.path.isAsked hs (by simpa using hd)
    rw [h.isAsked_eq_false hs] at ha
    cases ha
  have he : s.hasEnded = false := by
    by_contra he
    obtain ⟨-, hb⟩ := h.batched hs
    have horder := h.path.inOrder hs
    unfold State.InOrder at horder
    cases hb with
    | running _ _ _ hf =>
      cases hp : s.phase with
      | ended =>
        rw [hp] at hf
        exact hf
      | _ => simp [State.hasEnded, hp] at he
    | ended hp =>
      rw [hp] at horder
      have hdraining := horder.2 rfl
      rw [hd] at hdraining
      cases hdraining
  rw [State.isClosed, hd, he, Bool.or_false]

/-- At rest everything that was accepted has been taken out of the queue, and everybody is done. -/
theorem roster_eq_nil (hs : State.spawn? policy = some start) (h : Fed start s events)
    (hr : s.IsAtRest) : s.roster = [] := by
  obtain ⟨hprompt, hb⟩ := h.batched hs
  have hq : s.queue = [] := by
    cases hb with
    | running _ _ _ hf => exact (Batched.idle_of_move hprompt hr.1 hf).1
    | ended hp =>
      have hc := h.isClosed_eq_false hs
      simp [State.isClosed, State.hasEnded, hp] at hc
  have hw := ((Slots.of_spawn? hs).path h.path).waiting_eq_nil hq hr.2
  rw [State.roster, hr.2, hw]
  rfl

end Fed

/-- Where nobody has rows left and nobody new comes, nothing is accepted. -/
theorem Path.quiet {s t : State α} {events : List (Event α)} (h : Path s events t)
    (hn : programs (events.filterMap Event.step?) = []) (hs : s.roster = []) :
    t.roster = [] ∧ t.accepted = s.accepted := by
  induction h with
  | refl => exact ⟨hs, rfl⟩
  | @snoc t u events event h ht ih =>
    rw [programs, List.filterMap_append, List.filterMap_append, List.append_eq_nil_iff] at hn
    obtain ⟨hroster, haccepted⟩ := ih hn.1
    cases ht with
    | loop hm => exact ⟨hm.keeps.roster.trans hroster, hm.keeps.accepted.trans haccepted⟩
    | produce hr =>
      rw [State.roster_of_ready hr] at hroster
      cases hroster
    | clock => exact ⟨hroster, haccepted⟩
    | @step step ha =>
      cases step with
      | advance => cases ha
      | store => simp [Event.step?, Step.program?] at hn
      | _ => exact ⟨hroster, haccepted⟩

/-- The only producer that has not ended is the one that goes on. -/
theorem State.eq_of_roster_eq {s : State α} {e : Entry α} {producer : Producer α}
    {others : List (Producer α)} (h : s.roster = [e]) (hr : s.ready = producer :: others) :
    e = ⟨producer.id, producer.rows, producer.stored⟩ ∧ others = [] ∧ s.waiting = [] := by
  rw [State.roster_of_ready hr, List.cons.injEq, List.map_eq_nil_iff, List.append_eq_nil_iff] at h
  exact ⟨h.1.symm, h.2⟩

/-- How far a new producer with a single row has come, when there are no others. -/
inductive Offered (s : State α) (row : α) (t : State α) : Prop where
  | pending (hr : t.roster = [⟨s.spawned, [row], 0⟩]) (ha : t.acceptedRows = s.acceptedRows)
      (he : t.ended = s.ended)
  | accepted (hr : t.roster = [⟨s.spawned, [], 1⟩]) (ha : t.acceptedRows = s.acceptedRows ++ [row])
      (he : t.ended = s.ended)
  | done (hr : t.roster = []) (ha : t.acceptedRows = s.acceptedRows ++ [row])
      (he : t.ended = s.ended ++ [⟨s.spawned, 1, true⟩])

namespace Offered

variable {s t u : State α} {row : α}

theorem of_eq (h : Offered s row t) (hr : u.roster = t.roster) (ha : u.accepted = t.accepted)
    (he : u.ended = t.ended) : Offered s row u := by
  have hrows : u.acceptedRows = t.acceptedRows := by
    rw [State.acceptedRows, ha, State.acceptedRows]
  cases h with
  | pending hr' ha' he' => exact .pending (hr.trans hr') (hrows.trans ha') (he.trans he')
  | accepted hr' ha' he' => exact .accepted (hr.trans hr') (hrows.trans ha') (he.trans he')
  | done hr' ha' he' => exact .done (hr.trans hr') (hrows.trans ha') (he.trans he')

theorem production (h : Offered s row t) (hc : t.isClosed = false) {producer : Producer α}
    {others : List (Producer α)} (hr : t.ready = producer :: others)
    (hp : Production t producer others u) : Offered s row u := by
  cases h with
  | pending hroster ha he =>
    obtain ⟨hentry, hothers, hwaiting⟩ := State.eq_of_roster_eq hroster hr
    obtain ⟨hid, hrows, hstored⟩ := Entry.mk.inj hentry
    cases hp with
    | done hnil =>
      rw [hnil] at hrows
      cases hrows
    | refused _ hclosed =>
      rw [hc] at hclosed
      cases hclosed
    | @accepted first rest hcons =>
      rw [hcons, List.cons.injEq] at hrows
      obtain ⟨rfl, rfl⟩ := hrows
      refine .accepted ?_ ?_ he
      · simp [State.roster, State.accept, hothers, hwaiting, hid, ← hstored]
      · rw [← ha]
        simp [State.acceptedRows, State.accept]
    | waits =>
      refine .pending ?_ ha he
      simp [State.roster, hothers, hwaiting, hid, hrows, hstored]
  | accepted hroster ha he =>
    obtain ⟨hentry, hothers, hwaiting⟩ := State.eq_of_roster_eq hroster hr
    obtain ⟨hid, hrows, hstored⟩ := Entry.mk.inj hentry
    cases hp with
    | done =>
      refine .done ?_ ha ?_
      · simp [State.roster, State.retire, hothers, hwaiting]
      · simp [State.retire, he, hid, hstored]
    | refused hcons | accepted hcons | waits hcons =>
      rw [hcons] at hrows
      cases hrows
  | done hroster =>
    rw [State.roster_of_ready hr] at hroster
    cases hroster

end Offered

namespace Fed

variable {start s t : State α} {events more : List (Event α)} {policy : Policy}

theorem offered (hs : State.spawn? policy = some start) (h : Fed start s events)
    (hr : s.roster = []) (row : α) (hp : Path (s.spawnProducer [row]) more t)
    (hn : more.filterMap Event.step? = []) (hw : s.held = true) : Offered s row t := by
  have hspawn : Fed start (s.spawnProducer [row]) (events ++ [.step (.store [row])]) := by
    refine h.append (.single (.step rfl fun _ => hw)) ?_
    simp [Event.step?, Step.Feeds]
  induction hp with
  | refl =>
    rw [State.roster, List.map_eq_nil_iff, List.append_eq_nil_iff] at hr
    refine .pending ?_ rfl rfl
    simp [State.roster, State.spawnProducer, hr.1, hr.2]
  | @snoc t u more event hp ht ih =>
    rw [List.filterMap_append, List.append_eq_nil_iff] at hn
    have ho := ih hn.1
    cases ht with
    | loop hm => exact ho.of_eq hm.keeps.roster hm.keeps.accepted hm.keeps.ended
    | produce hready hprod =>
      have hfed := hspawn.append hp (by simp [hn.1])
      exact ho.production (hfed.isClosed_eq_false hs) hready hprod
    | clock => exact ho.of_eq rfl rfl rfl
    | step => simp [Event.step?] at hn

end Fed

/-- A writer at rest that has only been fed, and has accepted these rows so far. -/
structure Serving (start s : State α) (rows : List α) : Prop where
  fed : ∃ events, Fed start s events
  rest : s.IsAtRest
  accepted : s.acceptedRows = rows

namespace Serving

variable {start s : State α} {rows : List α} {policy : Policy}

theorem of_spawn? (hs : State.spawn? policy = some start) : Serving start start [] := by
  refine ⟨⟨[], .refl start, nofun⟩, State.isAtRest_of_spawn? hs, ?_⟩
  obtain rfl := State.eq_fresh hs
  rfl

theorem advance (hs : State.spawn? policy = some start) (h : Serving start s rows) (time : Nat) :
    Serving start (s.take (.advance time)) rows := by
  obtain ⟨events, hfed⟩ := h.fed
  have hstep : s.step? (.advance time) = some (s.take (.advance time)) := rfl
  obtain ⟨hr, more, hp, hn⟩ := State.exists_path_of_step? h.rest hstep
  have hnone : more.filterMap Event.step? = [] := hn
  have hfed' := hfed.append hp (by rw [hnone]; nofun)
  have hquiet := hp.quiet (by rw [hnone]; rfl) (hfed.roster_eq_nil hs h.rest)
  refine ⟨⟨_, hfed'⟩, hr, ?_⟩
  rw [State.acceptedRows, hquiet.2]
  exact h.accepted

/-- A row that is offered is accepted at once. -/
theorem offer (hs : State.spawn? policy = some start) (h : Serving start s rows) (row : α) :
    Serving start (s.offer row).1 (rows ++ [row]) ∧
      (s.offer row).2 = some ⟨s.spawned, 1, true⟩ := by
  obtain ⟨events, hfed⟩ := h.fed
  have hheld := hfed.held_eq_true hs
  have hroster := hfed.roster_eq_nil hs h.rest
  obtain ⟨more, hp, hn⟩ := State.leads_settle (s.spawnProducer [row])
  have hspawn : Path s [.step (.store [row])] (s.spawnProducer [row]) :=
    .single (.step rfl fun _ => hheld)
  have hlast : Fed start (s.offer row).1 (events ++ ([.step (.store [row])] ++ more)) := by
    refine hfed.append (hspawn.trans hp) ?_
    rw [List.filterMap_append, hn]
    simp [Event.step?, Step.Feeds]
  have hrest : (s.offer row).1.IsAtRest := State.isAtRest_settle _
  have hnone := hlast.roster_eq_nil hs hrest
  have ho : Offered s row (s.offer row).1 := hfed.offered hs hroster row hp hn hheld
  cases ho with
  | pending hr | accepted hr =>
    rw [hnone] at hr
    cases hr
  | done _ ha he =>
    refine ⟨⟨⟨_, hlast⟩, hrest, by rw [ha, h.accepted]⟩, ?_⟩
    -- no earlier producer has the number of the new one
    have hids := (hfed.path.accounted hs).ids
    rw [hroster, List.map_nil, List.nil_append] at hids
    have hold : s.ended.find? (·.id = s.spawned) = none := by
      rw [List.find?_eq_none]
      intro e hmem hid
      have hlt := List.mem_range.mp (hids.mem_iff.mp (List.mem_map_of_mem hmem))
      rw [of_decide_eq_true hid] at hlt
      exact Nat.lt_irrefl _ hlt
    show (s.offer row).1.ended.find? (·.id = s.spawned) = _
    rw [he, List.find?_append, hold]
    simp

/-- After a shutdown all accepted rows are in the store. -/
theorem shutdown (hs : State.spawn? policy = some start) (h : Serving start s rows) :
    (s.take .shutdown).phase = .ended none ∧
      (s.take .shutdown).store.sent.flatten = rows := by
  obtain ⟨events, hfed⟩ := h.fed
  have hstep : s.step? .shutdown = some (s.take .shutdown) := by
    simp [State.step?, hfed.held_eq_true hs]
  obtain ⟨hr, more, hp, hn⟩ := State.exists_path_of_step? h.rest hstep
  have hsteps : more.filterMap Event.step? = [.shutdown] := hn
  have hpath := hfed.path.trans hp
  have hplain : ∀ step ∈ (events ++ more).filterMap Event.step?, step.Plain := by
    intro step hmem
    rw [List.filterMap_append, hsteps] at hmem
    rcases List.mem_append.mp hmem with hmem | hmem
    · exact (hfed.feeds step hmem).plain
    · rw [List.mem_singleton.mp hmem]
      trivial
  obtain ⟨hprompt, hb⟩ := hpath.batched hs hplain
  have haccepted : (s.take .shutdown).acceptedRows = rows := by
    have hquiet := hp.quiet (by rw [hsteps]; rfl) (hfed.roster_eq_nil hs h.rest)
    rw [State.acceptedRows, hquiet.2]
    exact h.accepted
  cases hb with
  | running _ _ _ hf =>
    -- a loop that waits has not been asked to end, but this one has
    obtain ⟨hq, _, hphase⟩ := Batched.idle_of_move hprompt hr.1 hf
    have hasked := State.isAsked_eq_false ((Slots.of_spawn? hs).path hpath) hr hphase hq
    rw [hpath.isAsked_eq hs, List.filterMap_append, hsteps] at hasked
    simp [Step.seals] at hasked
  | ended hphase =>
    have hledger := hpath.ledger hs
    unfold State.Ledger at hledger
    rw [hphase] at hledger
    exact ⟨hphase, hledger.trans haccepted⟩

end Serving
end Pageviews.Writer
