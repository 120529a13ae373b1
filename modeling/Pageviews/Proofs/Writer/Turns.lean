import Pageviews.Proofs.Writer.Acknowledgement

/-! Whose turn it is. Main statement: producers with one row each are served in the order in which
they came, whatever holds the loop up and however it ends. -/
namespace Pageviews.Writer

variable {α : Type} {s t : State α}

/-- The loop does not open a writer that was closed. -/
theorem LoopMove.isClosed_eq_false {taken : List (Call α)} {refused : Option (Call α)}
    (h : LoopMove s taken refused t) (hc : t.isClosed = false) : s.isClosed = false := by
  have hd : s.draining = false := by
    by_contra hd
    have hd' := h.keeps.draining (by simpa using hd)
    rw [(Bool.or_eq_false_iff.mp hc).1] at hd'
    cases hd'
  rw [State.isClosed, hd, h.hasEnded_eq_false, Bool.or_false]

theorem Delivery.ready_eq {row : α} {current : Option (Batch α)} {taken : List (Call α)}
    {refused : Option (Call α)} (h : Delivery s row current taken refused t)
    (hc : t.isClosed = false) : t.ready = s.ready := by
  have he := (Bool.or_eq_false_iff.mp hc).2
  cases h with
  | notOpened | notFirst | notNext => cases he
  | first | tooOld | next => rfl

/-- As long as the writer is open, the loop lets only those go on for whom it has kept a slot. -/
theorem LoopMove.mem_ready {taken : List (Call α)} {refused : Option (Call α)}
    (h : LoopMove s taken refused t) (hc : t.isClosed = false) {p : Producer α}
    (hp : p ∈ t.ready) : p ∈ s.ready ∨ p.holdsSlot = true := by
  obtain ⟨hd, he⟩ := Bool.or_eq_false_iff.mp hc
  cases h with
  | beginDrain => cases hd
  | @take _ _ queue _ _ _ _ _ _ _ _ _ h =>
    rw [h.ready_eq hc] at hp
    unfold State.grantSlot at hp
    split at hp
    · exact .inl hp
    · rcases List.mem_append.mp hp with hp | hp
      · exact .inl hp
      · rw [List.mem_singleton.mp hp]
        exact .inr rfl
  | takeLate _ _ _ h =>
    rw [h.ready_eq hc] at hp
    exact .inl hp
  | sentBefore _ _ _ h =>
    rw [h.ready_eq hc] at hp
    exact .inl hp
  | finish | notSent | sentLast => cases he
  | expire | flush | fill | outlive | join | sent => exact .inl hp

namespace State

/-- The producers that have rows left, first those that can go on and then those that wait. -/
def unserved (s : State α) : List Nat := (s.roster.filter (!·.rows.isEmpty)).map Entry.id

/-- Who can go on with a row has a slot that was kept for it. -/
def AllHold (s : State α) : Prop :=
  s.isClosed = false → ∀ p ∈ s.ready, p.rows ≠ [] → p.holdsSlot = true

theorem allHold_of_ready (h : s.ready = []) : s.AllHold := by
  intro _ p hp
  rw [h] at hp
  cases hp

end State

/-- Producers with one row each, by number: first those that were served, then those that are
next. -/
structure InTurn (s : State α) : Prop where
  single : ∀ e ∈ s.roster, e.rows.length ≤ 1
  served : s.accepted.map Admission.producer <+: List.range s.spawned
  next : s.isClosed = false →
    s.accepted.map Admission.producer ++ s.unserved = List.range s.spawned

namespace InTurn

theorem of_spawn? {policy : Policy} (h : State.spawn? policy = some s) : InTurn s := by
  obtain rfl := State.eq_fresh h
  exact ⟨nofun, List.prefix_refl _, fun _ => rfl⟩

theorem of_eq (h : InTurn s) (hr : t.roster = s.roster) (ha : t.accepted = s.accepted)
    (hs : t.spawned = s.spawned) (hc : t.isClosed = false → s.isClosed = false) : InTurn t := by
  refine ⟨?_, ?_, fun ho => ?_⟩
  · rw [hr]; exact h.single
  · rw [ha, hs]; exact h.served
  · rw [State.unserved, ha, hs, hr]
    exact h.next (hc ho)

theorem loopMove (h : InTurn s) {taken : List (Call α)} {refused : Option (Call α)}
    (hm : LoopMove s taken refused t) : InTurn t :=
  h.of_eq hm.keeps.roster hm.keeps.accepted hm.keeps.spawned hm.isClosed_eq_false

theorem retire (h : InTurn s) {producer : Producer α} {others : List (Producer α)}
    (hr : s.ready = producer :: others) {complete : Bool}
    (hc : producer.rows = [] ∨ s.isClosed = true) : InTurn (s.retire producer others complete) := by
  have hroster := State.roster_of_ready hr
  refine ⟨fun e he => h.single e ?_, h.served, fun ho => ?_⟩
  · rw [hroster]
    exact List.mem_cons_of_mem _ he
  · have hopen : s.isClosed = false := ho
    have hnil : producer.rows = [] := hc.resolve_right (by simp [hopen])
    have hnext := h.next hopen
    rw [State.unserved, hroster, List.filter_cons_of_neg (by simp [hnil])] at hnext
    exact hnext

/-- A producer that has a row has no other. -/
theorem eq_nil (h : InTurn s) {producer : Producer α} {others : List (Producer α)}
    (hr : s.ready = producer :: others) {row : α} {rows : List α}
    (hp : producer.rows = row :: rows) : rows = [] := by
  have hlen := h.single ⟨producer.id, producer.rows, producer.stored⟩
    (by rw [State.roster_of_ready hr]; exact List.mem_cons_self)
  rw [hp, List.length_cons] at hlen
  exact List.length_eq_zero_iff.mp (by omega)

theorem accept (h : InTurn s) {producer : Producer α} {others : List (Producer α)}
    (hr : s.ready = producer :: others) {row : α} {rows : List α}
    (hp : producer.rows = row :: rows) (hc : s.isClosed = false) :
    InTurn (s.accept producer row rows others) := by
  have hroster := State.roster_of_ready hr
  have hnil := h.eq_nil hr hp
  have hnext := h.next hc
  rw [State.unserved, hroster, List.filter_cons_of_pos (by simp [hp]), List.map_cons] at hnext
  have hnext' : (s.accept producer row rows others).accepted.map Admission.producer ++
      (s.accept producer row rows others).unserved = List.range s.spawned := by
    rw [State.unserved, State.roster_of_ready rfl, List.filter_cons_of_neg (by simp [hnil])]
    simpa [State.accept] using hnext
  refine ⟨?_, ⟨_, hnext'⟩, fun _ => hnext'⟩
  intro e he
  rw [State.roster_of_ready rfl] at he
  rcases List.mem_cons.mp he with rfl | he
  · rw [hnil]
    exact Nat.zero_le 1
  · exact h.single e (by rw [hroster]; exact List.mem_cons_of_mem _ he)

theorem production (h : InTurn s) (hk : s.AllHold) {producer : Producer α}
    {others : List (Producer α)} (hr : s.ready = producer :: others)
    (hp : Production s producer others t) : InTurn t ∧ t.AllHold := by
  have hmem : ∀ p ∈ others, p ∈ s.ready := fun p hp => by rw [hr]; exact List.mem_cons_of_mem _ hp
  cases hp with
  | done hrows => exact ⟨h.retire hr (.inl hrows), fun hc p hp => hk hc p (hmem p hp)⟩
  | refused _ hclosed => exact ⟨h.retire hr (.inr hclosed), fun hc p hp => hk hc p (hmem p hp)⟩
  | @accepted row rows hrows hc =>
    refine ⟨h.accept hr hrows hc, fun hc p hp hne => ?_⟩
    rcases List.mem_cons.mp hp with rfl | hp
    · exact absurd (h.eq_nil hr hrows) hne
    · exact hk hc p (hmem p hp) hne
  | waits hrows hc hh =>
    have hold := hk hc producer (by rw [hr]; exact List.mem_cons_self) (by simp [hrows])
    rw [hh] at hold
    cases hold

/-- Behind all others there is room for a new producer. -/
theorem newcomer (h : InTurn s) (row : α) (hr : t.roster = s.roster ++ [⟨s.spawned, [row], 0⟩])
    (ha : t.accepted = s.accepted) (hs : t.spawned = s.spawned + 1)
    (hc : t.isClosed = false → s.isClosed = false) : InTurn t := by
  refine ⟨?_, ?_, fun ho => ?_⟩
  · intro e he
    rw [hr] at he
    rcases List.mem_append.mp he with he | he
    · exact h.single e he
    · rw [List.mem_singleton.mp he]
      exact Nat.le_refl 1
  · rw [ha, hs, List.range_succ]
    exact h.served.trans (List.prefix_append _ _)
  · have hunserved : t.unserved = s.unserved ++ [s.spawned] := by
      rw [State.unserved, hr, List.filter_append, List.map_append]
      rfl
    rw [ha, hs, hunserved, ← List.append_assoc, h.next (hc ho), List.range_succ]

/-- A new producer, when all others wait, is served if there is a free slot, and else waits behind
them. -/
theorem arrival (h : InTurn s) (hslots : Slots s) (hr : s.ready = []) {row : α}
    (hp : Production (s.spawnProducer [row]) ⟨s.spawned, [row], 0, false⟩ [] t) :
    InTurn t ∧ t.AllHold := by
  have hready : (s.spawnProducer [row]).ready = [⟨s.spawned, [row], 0, false⟩] := by
    rw [State.spawnProducer, hr]
    rfl
  have hroster : s.roster = s.waiting.map fun p => ⟨p.id, p.rows, p.stored⟩ := by
    rw [State.roster, hr]
    rfl
  cases hp with
  | done hrows => cases hrows
  | refused _ hc =>
    have hserved : s.accepted.map Admission.producer <+: List.range (s.spawned + 1) :=
      h.served.trans (List.range_succ ▸ List.prefix_append _ _)
    refine ⟨⟨fun e he => h.single e (hroster ▸ he), hserved, fun ho => ?_⟩,
      State.allHold_of_ready rfl⟩
    rw [show (s.spawnProducer [row]).isClosed = false from ho] at hc
    cases hc
  | @accepted first rows hrows hc hf =>
    -- there would be no free slot if somebody waited
    have hfree : s.queue.length + s.reserved < s.policy.slots := by
      have hf' := hf.resolve_left (by simp)
      simpa [State.hasFreeSlot, State.reserved, State.spawnProducer, hr] using hf'
    have hw : s.waiting = [] := by
      by_contra hw
      exact Nat.ne_of_lt hfree (hslots.full hw)
    have hspawn : InTurn (s.spawnProducer [row]) := by
      refine h.newcomer row ?_ rfl rfl id
      rw [hroster, hw, State.roster, hready, State.spawnProducer, hw]
      rfl
    refine ⟨hspawn.accept hready hrows hc, fun _ p hp hne => ?_⟩
    rw [List.mem_singleton.mp hp] at hne
    exact absurd (hspawn.eq_nil hready hrows) hne
  | waits =>
    refine ⟨h.newcomer row ?_ rfl rfl id, State.allHold_of_ready rfl⟩
    rw [hroster, State.roster, List.nil_append, List.map_append]
    rfl

end InTurn

theorem Path.inTurn {events : List (Event α)} (h : Path s events t)
    (hn : programs (events.filterMap Event.step?) = []) (hs : InTurn s) (hk : s.AllHold) :
    InTurn t ∧ t.AllHold := by
  induction h with
  | refl => exact ⟨hs, hk⟩
  | @snoc t u events event h ht ih =>
    rw [programs, List.filterMap_append, List.filterMap_append, List.append_eq_nil_iff] at hn
    obtain ⟨hturn, hhold⟩ := ih hn.1
    cases ht with
    | loop hm =>
      refine ⟨hturn.loopMove hm, fun hc p hp hne => ?_⟩
      rcases hm.mem_ready hc hp with hp | hp
      · exact hhold (hm.isClosed_eq_false hc) p hp hne
      · exact hp
    | produce hr hp => exact hturn.production hhold hr hp
    | clock => exact ⟨hturn.of_eq rfl rfl rfl id, hhold⟩
    | @step step ha =>
      cases step with
      | advance => cases ha
      | store => simp [Event.step?, Step.program?] at hn
      | _ => exact ⟨hturn.of_eq rfl rfl rfl id, hhold⟩

namespace State

/-- What becomes of the producers gives a loop that waits nothing to do, unless they abandon it. -/
theorem move_producers (h : s.move = none) {ready waiting : List (Producer α)} {spawned : Nat}
    {ended : List Ended}
    (ha : ({ s with ready, waiting, spawned, ended } : State α).isAbandoned = true →
      s.isAbandoned = true) :
    ({ s with ready, waiting, spawned, ended } : State α).move = none := by
  rw [move_eq_none_iff] at h
  apply move_eq_none_of_not_canMove
  rintro ⟨_, _, _, hm⟩
  apply h
  cases hm with
  | beginDrain hp _ hs => exact canMove_of_signalled hp (hs.imp_right ha)
  | expire hp _ _ _ hx => exact canMove_of_expired hp hx
  | take hp _ _ _ _ hq =>
    have hq' : s.queue = _ := hq
    exact canMove_of_queue_ne_nil hp (by rw [hq']; exact List.cons_ne_nil _ _)
  | takeLate hp hd | flush hp hd | finish hp hd => exact canMove_of_draining hp hd
  | fill hp hn | outlive hp hn | join hp hn => exact canMove_of_appending hp hn
  | notSent hp hs | sent hp hs | sentBefore hp hs | sentLast hp hs =>
    exact canMove_of_sending hp hs

theorem move_spawnProducer (h : s.move = none) (rows : List α) :
    (s.spawnProducer rows).move = none :=
  move_producers h (by simp [isAbandoned])

theorem runLoop_of_move (h : s.move = none) : s.runLoop = s := by
  unfold runLoop
  split
  · rfl
  · next hm =>
    rw [h] at hm
    cases hm

theorem runProducers_of_ready {producer : Producer α} {others : List (Producer α)}
    (h : s.ready = producer :: others) :
    s.runProducers = (s.produce producer others).runProducers := by
  rw [runProducers]
  split
  · next hr =>
    rw [h] at hr
    cases hr
  · next hr =>
    rw [h] at hr
    cases hr
    rfl

/-- So it is the producer that goes on first. -/
theorem settle_spawnProducer (hr : s.IsAtRest) (rows : List α) :
    (s.spawnProducer rows).settle =
      ((s.spawnProducer rows).produce ⟨s.spawned, rows, 0, false⟩ []).runProducers.settle := by
  have hready : (s.spawnProducer rows).ready = [⟨s.spawned, rows, 0, false⟩] := by
    rw [spawnProducer, hr.2]
    rfl
  rw [settle, runLoop_of_move (move_spawnProducer hr.1 rows), dif_neg (by simp [hready]),
    runProducers_of_ready hready]

/-- A step from rest, with all that it brings about, keeps the turns. -/
theorem inTurn_of_step? {step : Step α} (hr : s.IsAtRest) (hslots : Slots s) (hs : InTurn s)
    (hsingle : ∀ rows, step = .store rows → rows.length = 1) (h : s.step? step = some t) :
    InTurn t := by
  by_cases hstore : ∃ rows, step = .store rows
  · obtain ⟨rows, rfl⟩ := hstore
    obtain ⟨row, rfl⟩ := List.length_eq_one_iff.mp (hsingle rows rfl)
    have hw : s.held = true := by
      by_contra hw
      simp [step?, Step.needsWriter, hw] at h
    have ht : (s.spawnProducer [row]).settle = t := by
      simpa [step?, hw, take, perform] using h
    obtain ⟨hturn, hhold⟩ := hs.arrival hslots hr.2 (production _ _ _)
    obtain ⟨events, hp, he⟩ := (leads_runProducers _).trans (leads_settle _)
    rw [settle_spawnProducer hr] at ht
    exact ht ▸ (hp.inTurn (by rw [he]; rfl) hturn hhold).1
  · obtain ⟨-, events, hp, he⟩ := exists_path_of_step? hr h
    refine (hp.inTurn ?_ hs (allHold_of_ready hr.2)).1
    rw [he, programs_filter]
    cases step with
    | store rows => exact absurd ⟨rows, rfl⟩ hstore
    | _ => rfl

theorem inTurn_of_run? {steps : List (Step α)} {states : List (State α)} {i : Nat}
    (hr : s.IsAtRest) (hslots : Slots s) (hs : InTurn s)
    (hsingle : ∀ rows, .store rows ∈ steps → rows.length = 1)
    (h : s.run? steps = some states) (hi : states[i]? = some t) : InTurn t := by
  induction steps generalizing s states i with
  | nil => cases h; simp at hi
  | cons step steps ih =>
    simp only [run?, Option.bind_eq_bind, Option.bind_eq_some_iff, Option.pure_def,
      Option.some.injEq] at h
    obtain ⟨u, hu, rest, hrest, rfl⟩ := h
    obtain ⟨hru, _, hp, -⟩ := exists_path_of_step? hr hu
    have hturn : InTurn u := by
      refine inTurn_of_step? hr hslots hs (fun rows he => hsingle rows ?_) hu
      rw [he]
      exact List.mem_cons_self
    cases i with
    | zero =>
      cases hi
      exact hturn
    | succ i =>
      have hlater : ∀ rows, .store rows ∈ steps → rows.length = 1 :=
        fun rows hm => hsingle rows (List.mem_cons_of_mem _ hm)
      exact ih hru (hslots.path hp) hturn hlater hrest hi

end State

/-- What holds at rest of a writer to which each producer stores one row. -/
structure Queued (steps : List (Step α)) (s : State α) : Prop where
  accepted : s.acceptedRows <+: (programs steps).flatten
  producers : s.accepted.map Admission.producer = List.range s.accepted.length
  /-- All others wait, in the order in which they came. -/
  waiting : s.isClosed = false →
    s.accepted.map Admission.producer ++ s.waiting.map Producer.id =
      List.range (programs steps).length
  /-- Nobody is served who came after one that was refused. -/
  refused : ∀ e ∈ s.ended, e.complete = false → ∀ a ∈ s.accepted, a.producer < e.id

theorem InTurn.producers_eq (h : InTurn s) :
    s.accepted.map Admission.producer = List.range s.accepted.length := by
  have htake := List.prefix_iff_eq_take.mp h.served
  have hlen := h.served.length_le
  rw [List.length_map, List.length_range] at hlen
  rw [List.take_range, List.length_map, Nat.min_eq_left hlen] at htake
  exact htake

theorem unserved_eq_waiting (hslots : Slots s) (hr : s.ready = []) :
    s.unserved = s.waiting.map Producer.id := by
  have hall : s.waiting.filter (fun p => !p.rows.isEmpty) = s.waiting := by
    apply List.filter_eq_self.mpr
    intro p hp
    simpa using (hslots.waits p hp).2
  rw [State.unserved, State.roster, hr, List.nil_append, List.filter_map, List.map_map]
  exact congrArg (List.map Producer.id) hall

theorem InTurn.take_programs (h : InTurn s) {programs : List (List α)}
    (ha : Accounted s programs) (hsingle : ∀ rows ∈ programs, rows.length = 1) :
    programs.take s.accepted.length = s.acceptedRows.map fun row => [row] := by
  apply List.ext_getElem?
  intro k
  rw [State.acceptedRows, List.map_map, List.getElem?_map]
  by_cases hk : k < s.accepted.length
  · have hproducer := congrArg (·[k]?) h.producers_eq
    simp only [List.getElem?_map, List.getElem?_eq_getElem hk, Option.map_some,
      List.getElem?_range hk, Option.some.injEq] at hproducer
    obtain ⟨rows, hprog, hrow⟩ := ha.exists_mem_program (List.getElem_mem hk)
    obtain ⟨row, rfl⟩ := List.length_eq_one_iff.mp (hsingle rows (List.mem_of_getElem? hprog))
    rw [List.getElem?_take_of_lt hk, ← hproducer, hprog, hproducer, List.getElem?_eq_getElem hk,
      ← List.mem_singleton.mp hrow]
    rfl
  · have hlen : s.accepted.length ≤ k := Nat.le_of_not_lt hk
    rw [List.getElem?_take_eq_none hlen, List.getElem?_eq_none hlen]
    rfl

theorem InTurn.queued (h : InTurn s) {steps : List (Step α)}
    (ha : Accounted s (programs steps)) (hslots : Slots s) (hr : s.ready = [])
    (hsingle : ∀ rows ∈ programs steps, rows.length = 1) : Queued steps s := by
  refine ⟨?_, h.producers_eq, fun hc => ?_, fun e he hrefused a hmem => ?_⟩
  · have htake := congrArg List.flatten (h.take_programs ha hsingle)
    rw [← List.flatMap_def, List.flatMap_singleton'] at htake
    refine ⟨((programs steps).drop s.accepted.length).flatten, ?_⟩
    rw [← htake, ← List.flatten_append, List.take_append_drop]
  · rw [← unserved_eq_waiting hslots hr, ← ha.spawned]
    exact h.next hc
  · obtain ⟨rows, hprog, hle, htake, hcomplete⟩ := ha.ended_eq_take he
    have hnone : s.acceptedOf e.id = [] := by
      have hlen := hsingle rows (List.mem_of_getElem? hprog)
      have hless : e.stored ≠ rows.length := by simp [← hcomplete, hrefused]
      have hzero : e.stored = 0 := by omega
      rw [htake, hzero, List.take_zero]
    by_contra hlate
    -- those that are served are the first ones, so it would be one of them
    have hserved : e.id ∈ s.accepted.map Admission.producer := by
      have hproducer := List.mem_map_of_mem (f := Admission.producer) hmem
      rw [h.producers_eq, List.mem_range] at hproducer ⊢
      omega
    obtain ⟨b, hb, hid⟩ := List.mem_map.mp hserved
    have hrow : b.row ∈ s.acceptedOf e.id :=
      List.mem_map_of_mem (List.mem_filter.mpr ⟨hb, decide_eq_true hid⟩)
    rw [hnone] at hrow
    cases hrow

/-- Producers with one row each are served in the order in which they came: at every answer the
accepted rows are those of the first producers, and as long as the writer is open all others wait.
After one was refused nobody later is served. -/
theorem served_in_turn {policy : Policy} {start : State α} (hs : State.spawn? policy = some start)
    {steps : List (Step α)} {states : List (State α)} (hrun : start.run? steps = some states)
    (hsingle : ∀ rows, .store rows ∈ steps → rows.length = 1) {i : Nat}
    (hi : states[i]? = some s) :
    Queued (steps.take (i + 1)) s ∧
      ∀ (j : Nat) (t : State α), i ≤ j → states[j]? = some t →
        ∀ e ∈ s.ended, e.complete = false → ∀ a ∈ t.accepted, a.producer < e.id := by
  have hrest := State.isAtRest_of_spawn? hs
  have hqueued : ∀ (j : Nat) (t : State α), states[j]? = some t →
      Queued (steps.take (j + 1)) t := by
    intro j t hj
    obtain ⟨hr, events, hp, he⟩ := State.exists_path_of_run? hrest hrun hj
    have haccounted := hp.accounted hs
    rw [he, programs_filter] at haccounted
    have hslots := Slots.of_spawn? hs
    refine (State.inTurn_of_run? hrest hslots (.of_spawn? hs) hsingle hrun hj).queued haccounted
      (hslots.path hp) hr.2 ?_
    intro rows hrows
    obtain ⟨step, hstep, hprogram⟩ := List.mem_filterMap.mp hrows
    cases step with
    | store rows' =>
      cases hprogram
      exact hsingle rows (List.mem_of_mem_take hstep)
    | _ => cases hprogram
  refine ⟨hqueued i s hi, fun j t hij hj e he => ?_⟩
  obtain ⟨more, hmore⟩ := State.exists_path_between hrest hrun hi hij hj
  exact (hqueued j t hj).refused e (hmore.ended_prefix.subset he)

/-- Slow appends behind which two producers wait: one is served, the shutdown refuses the other, and
so is everybody who comes later. -/
theorem served_in_turn_until_closed : ∃ (start s t : State Nat) (states : List (State Nat)),
    State.spawn? ⟨2, 1, 10⟩ = some start ∧
    start.run? [.slowAppends 5, .store [7], .store [8], .store [9], .store [7], .store [5],
      .advance 5, .shutdown, .advance 20, .store [6]] = some states ∧
    states[5]? = some s ∧ states[9]? = some t ∧
    (s.acceptedRows, s.waiting.map Producer.id) = ([7, 8, 9], [3, 4]) ∧
    (t.acceptedRows, t.ended.map Ended.complete) =
      ([7, 8, 9, 7], [true, true, true, true, false, false]) ∧
    Queued [.slowAppends 5, .store [7], .store [8], .store [9], .store [7], .store [5]] s ∧
    Queued [.slowAppends 5, .store [7], .store [8], .store [9], .store [7], .store [5],
      .advance 5, .shutdown, .advance 20, .store [6]] t := by
  have heval : ((State.spawn? ⟨2, 1, 10⟩).bind fun start =>
      (start.run? [.slowAppends 5, .store [7], .store [8], .store [9], .store [7], .store [5],
        .advance 5, .shutdown, .advance 20, .store [6]]).bind fun states =>
          states[5]?.map fun s => ((s.acceptedRows, s.waiting.map Producer.id),
            states[9]?.map fun t => (t.acceptedRows, t.ended.map Ended.complete))) =
      some (([7, 8, 9], [3, 4]),
        some ([7, 8, 9, 7], [true, true, true, true, false, false])) := by cbv
  obtain ⟨start, states, s, hs, hrun, hi, heval⟩ := State.exists_answer_of_spawn? heval
  obtain ⟨hfull, hlater⟩ := Prod.mk.inj heval
  obtain ⟨t, hj, hclosed⟩ := Option.map_eq_some_iff.mp hlater
  have hsingle : ∀ rows, .store rows ∈ [Step.slowAppends 5, .store [7], .store [8], .store [9],
      .store [7], .store [5], .advance 5, .shutdown, .advance 20, .store [6]] →
      rows.length = 1 := by
    intro rows hm
    simp only [List.mem_cons, Step.store.injEq, List.not_mem_nil, reduceCtorEq, false_or,
      or_false] at hm
    rcases hm with rfl | rfl | rfl | rfl | rfl | rfl <;> rfl
  have hqs := served_in_turn hs hrun hsingle hi
  have hqt := served_in_turn hs hrun hsingle hj
  exact ⟨start, s, t, states, hs, hrun, hi, hj, hfull, hclosed, hqs.1, hqt.1⟩

end Pageviews.Writer
