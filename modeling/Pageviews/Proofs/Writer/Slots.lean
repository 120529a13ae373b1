import Mathlib.Data.List.Basic
import Pageviews.Proofs.Writer.Frame

/-! The slots of the queue, and what a closed queue does to the producers. -/
namespace Pageviews.Writer

variable {α : Type}

/-- The slots that are kept for producers which can go on. -/
def State.reserved (s : State α) : Nat := (s.ready.filter (·.holdsSlot)).length

/-- A producer waits only while every slot is taken or kept, and for a slot only. -/
structure Slots (s : State α) : Prop where
  bound : s.queue.length + s.reserved ≤ s.policy.slots
  full : s.waiting ≠ [] → s.queue.length + s.reserved = s.policy.slots
  waits : ∀ p ∈ s.waiting, p.holdsSlot = false ∧ p.rows ≠ []
  holds : ∀ p ∈ s.ready, p.holdsSlot = true → p.rows ≠ []
  closed : s.isClosed = true → s.waiting = []

namespace Slots

variable {s t : State α}

theorem of_spawn? {policy : Policy} (h : State.spawn? policy = some s) : Slots s := by
  obtain rfl := State.eq_fresh h
  exact ⟨Nat.zero_le _, nofun, nofun, nofun, fun _ => rfl⟩

/-- A state with the same producers and queue, not closed anew. -/
theorem of_eq (h : Slots s) (hp : t.policy = s.policy) (hq : t.queue = s.queue)
    (hr : t.ready = s.ready) (hw : t.waiting = s.waiting)
    (hc : t.isClosed = true → s.isClosed = true) : Slots t := by
  have hv : t.reserved = s.reserved := by rw [State.reserved, hr, State.reserved]
  refine ⟨?_, ?_, ?_, ?_, ?_⟩
  · rw [hp, hq, hv]; exact h.bound
  · rw [hp, hq, hv, hw]; exact h.full
  · rw [hw]; exact h.waits
  · rw [hr]; exact h.holds
  · rw [hw]; exact h.closed ∘ hc

/-- Those who wait are woken, and hold no slot. -/
theorem wakeAll (h : Slots s) (hp : t.policy = s.policy) (hq : t.queue.length ≤ s.queue.length)
    (hr : t.ready = s.ready ++ s.waiting) (hw : t.waiting = []) : Slots t := by
  have hnone : s.waiting.filter (·.holdsSlot) = [] := by
    simpa using fun p hp => (h.waits p hp).1
  have hv : t.reserved = s.reserved := by
    rw [State.reserved, hr, List.filter_append, hnone, List.append_nil, State.reserved]
  refine ⟨?_, ?_, ?_, ?_, ?_⟩
  · have := h.bound
    rw [hp, hv]; omega
  · exact fun hne => absurd hw hne
  · rw [hw]; nofun
  · rw [hr]
    intro p hm hh
    rcases List.mem_append.mp hm with hm | hm
    · exact h.holds p hm hh
    · exact (h.waits p hm).2
  · exact fun _ => hw

theorem stop (h : Slots s) (failure : Option Failure) : Slots (s.stop failure) :=
  h.wakeAll rfl (Nat.zero_le _) rfl rfl

theorem beginDrain (h : Slots s) : Slots s.beginDrain := h.wakeAll rfl (Nat.le_refl _) rfl rfl

/-- A slot that a row has left is kept for the one who has waited longest. -/
theorem take (h : Slots s) {row : α} {queue : List α} (hq : s.queue = row :: queue)
    (hc : s.isClosed = false) : Slots ({ s with queue } : State α).grantSlot := by
  have hb := h.bound
  have hl : s.queue.length = queue.length + 1 := by rw [hq, List.length_cons]
  unfold State.grantSlot
  split
  · next hw =>
    have hw' : s.waiting = [] := hw
    refine ⟨?_, fun hne => absurd hw hne, h.waits, h.holds, fun _ => hw⟩
    show queue.length + s.reserved ≤ s.policy.slots
    omega
  · next producer others hw =>
    have hw' : s.waiting = producer :: others := hw
    have hf := h.full (by rw [hw']; exact List.cons_ne_nil _ _)
    have hsum : queue.length +
        ((s.ready ++ [({ producer with holdsSlot := true } : Producer α)]).filter
          (·.holdsSlot)).length =
          s.policy.slots := by
      rw [List.filter_append, List.length_append]
      simp only [State.reserved] at hf
      simp only [List.filter_cons_of_pos, List.filter_nil, List.length_cons, List.length_nil]
      omega
    refine ⟨Nat.le_of_eq hsum, fun _ => hsum, ?_, ?_, ?_⟩
    · exact fun p hp => h.waits p (by rw [hw']; exact List.mem_cons_of_mem _ hp)
    · intro p hp hh
      rcases List.mem_append.mp hp with hp | hp
      · exact h.holds p hp hh
      · rw [List.mem_singleton.mp hp]
        exact (h.waits producer (by rw [hw']; exact List.mem_cons_self)).2
    · intro hcl
      rw [show s.isClosed = true from hcl] at hc
      cases hc

theorem takeLate (h : Slots s) {row : α} {queue : List α} (hq : s.queue = row :: queue)
    (hc : s.isClosed = true) : Slots { s with queue } := by
  have hw := h.closed hc
  have hb := h.bound
  refine ⟨?_, fun hne => absurd hw hne, h.waits, h.holds, fun _ => hw⟩
  rw [hq, List.length_cons] at hb
  show queue.length + s.reserved ≤ s.policy.slots
  omega

/-- A phase in which the loop has not ended closes nothing. -/
theorem ofPhase (h : Slots s) (phase : Phase α) (store : Store.Memory α) (notices : List Notice)
    (batchesSent rowsSent : Nat)
    (hc : ({ s with phase } : State α).hasEnded = false) :
    Slots { s with phase, store, notices, batchesSent, rowsSent } := by
  refine h.of_eq rfl rfl rfl rfl fun hcl => ?_
  have hd : (s.draining || ({ s with phase } : State α).hasEnded) = true := hcl
  rw [hc, Bool.or_false] at hd
  rw [State.isClosed, hd, Bool.true_or]

theorem kept (h : Slots s) (batch : Batch α) (trigger : Trigger) (age : Nat) :
    Slots (s.kept batch trigger age) := h.of_eq rfl rfl rfl rfl id

theorem delivery (h : Slots s) {row : α} {current : Option (Batch α)} {taken : List (Call α)}
    {refused : Option (Call α)} (hd : Delivery s row current taken refused t) : Slots t := by
  cases hd with
  | notOpened | notNext => exact h.stop _
  | notFirst =>
    have hs : Slots { s with store := s.store.countOpened } := h.of_eq rfl rfl rfl rfl id
    exact hs.stop _
  | first | tooOld | next => exact h.ofPhase _ _ _ _ _ rfl

theorem loopMove (h : Slots s) {taken : List (Call α)} {refused : Option (Call α)}
    (hm : LoopMove s taken refused t) : Slots t := by
  have he := hm.hasEnded_eq_false
  cases hm with
  | beginDrain => exact h.beginDrain
  | take _ hd _ _ _ hq hdel =>
    exact (h.take hq (by rw [State.isClosed, hd, he, Bool.or_false])).delivery hdel
  | takeLate _ hd hq hdel =>
    exact (h.takeLate hq (by rw [State.isClosed, hd, Bool.true_or])).delivery hdel
  | finish | notSent => exact h.stop _
  | expire | flush | fill | outlive | join => exact h.ofPhase _ _ _ _ _ rfl
  | sent => exact (h.kept ..).ofPhase _ _ _ _ _ rfl
  | sentBefore _ _ _ hdel => exact (h.kept ..).delivery hdel
  | sentLast => exact (h.kept ..).stop _

theorem production (h : Slots s) {producer : Producer α} {others : List (Producer α)}
    (hr : s.ready = producer :: others) (hp : Production s producer others t) : Slots t := by
  have hb := h.bound
  have hf := h.full
  have hothers : ∀ p ∈ others, p.holdsSlot = true → p.rows ≠ [] :=
    fun p hm => h.holds p (by rw [hr]; exact List.mem_cons_of_mem _ hm)
  have hv : s.reserved = (if producer.holdsSlot = true then 1 else 0) +
      (others.filter (·.holdsSlot)).length := by
    rw [State.reserved, hr, List.filter_cons]
    split <;> simp [Nat.add_comm]
  cases hp with
  | done hrows =>
    have hh : producer.holdsSlot = false := by
      by_contra hh
      rw [Bool.not_eq_false] at hh
      exact h.holds producer (by rw [hr]; exact List.mem_cons_self) hh hrows
    rw [if_neg (by simp [hh])] at hv
    refine ⟨?_, fun hw => ?_, h.waits, hothers, h.closed⟩
    · show s.queue.length + (others.filter (·.holdsSlot)).length ≤ s.policy.slots
      omega
    · have := hf hw
      show s.queue.length + (others.filter (·.holdsSlot)).length = s.policy.slots
      omega
  | refused _ hc =>
    refine ⟨?_, fun hw => absurd (h.closed hc) hw, h.waits, hothers, h.closed⟩
    show s.queue.length + (others.filter (·.holdsSlot)).length ≤ s.policy.slots
    omega
  | @accepted row rows hrows hc hslot =>
    have hfree : s.hasFreeSlot = true → s.queue.length + s.reserved < s.policy.slots := by
      intro hfree
      simpa [State.hasFreeSlot, State.reserved] using hfree
    have hv' : (s.accept producer row rows others).reserved =
        (others.filter (·.holdsSlot)).length := rfl
    have hq' : (s.accept producer row rows others).queue.length = s.queue.length + 1 := by
      simp [State.accept]
    refine ⟨?_, fun hw => ?_, h.waits, ?_, h.closed⟩
    · rw [hv', hq']
      show _ ≤ s.policy.slots
      rcases hslot with hh | hfr
      · rw [if_pos hh] at hv; omega
      · have := hfree hfr; omega
    · rw [hv', hq']
      show _ = s.policy.slots
      have hfull := hf hw
      rcases hslot with hh | hfr
      · rw [if_pos hh] at hv; omega
      · have := hfree hfr; omega
    · intro p hm hh
      rcases List.mem_cons.mp hm with rfl | hm
      · cases hh
      · exact hothers p hm hh
  | @waits row rows hrows hc hh hnf =>
    -- no slot was free, so those that are taken or kept are all there are
    rw [if_neg (by simp [hh])] at hv
    have hge : s.policy.slots ≤ s.queue.length + s.reserved := by
      simpa [State.hasFreeSlot, State.reserved] using hnf
    have hsum : s.queue.length + (others.filter (·.holdsSlot)).length = s.policy.slots := by omega
    refine ⟨Nat.le_of_eq hsum, fun _ => hsum, ?_, hothers, ?_⟩
    · intro p hm
      rcases List.mem_append.mp hm with hm | hm
      · exact h.waits p hm
      · rw [List.mem_singleton.mp hm]
        exact ⟨hh, by rw [hrows]; exact List.cons_ne_nil _ _⟩
    · intro hcl
      rw [show s.isClosed = true from hcl] at hc
      cases hc

theorem spawnProducer (h : Slots s) (rows : List α) : Slots (s.spawnProducer rows) := by
  have hv : (s.spawnProducer rows).reserved = s.reserved := by
    simp [State.reserved, State.spawnProducer]
  refine ⟨?_, ?_, h.waits, ?_, h.closed⟩
  · rw [hv]; exact h.bound
  · rw [hv]; exact h.full
  · intro p hm hh
    rcases List.mem_append.mp hm with hm | hm
    · exact h.holds p hm hh
    · rw [List.mem_singleton.mp hm] at hh
      cases hh

theorem transition (h : Slots s) {event : Event α} (ht : Transition s event t) : Slots t := by
  cases ht with
  | loop hm => exact h.loopMove hm
  | produce hr hp => exact h.production hr hp
  | clock => exact h.of_eq rfl rfl rfl rfl id
  | @step step ha =>
    cases step with
    | advance => cases ha
    | store rows => exact h.spawnProducer rows
    | _ => exact h.of_eq rfl rfl rfl rfl id

/-- Nobody waits when nothing is queued and nobody goes on. -/
theorem waiting_eq_nil (h : Slots s) (hq : s.queue = []) (hr : s.ready = []) : s.waiting = [] := by
  by_contra hw
  have hf := h.full hw
  have hs : 1 ≤ s.policy.slots := Nat.le_max_left _ _
  simp only [State.reserved, hq, hr, List.filter_nil, List.length_nil] at hf
  omega

end Slots

/-- What happens to a writer and its producers once it is closed: nothing more is accepted, and who
has rows left goes on to be refused. -/
structure Released (s t : State α) : Prop where
  closed : t.isClosed = true
  accepted : t.accepted = s.accepted
  refused : ∀ e ∈ s.roster, e.rows ≠ [] → e ∈ t.roster ∨ ⟨e.id, e.stored, false⟩ ∈ t.ended

namespace Released

variable {s t u : State α}

theorem refl (hc : s.isClosed = true) : Released s s := ⟨hc, rfl, fun _ he _ => .inl he⟩

theorem production (h : Released s t) {producer : Producer α} {others : List (Producer α)}
    (hr : t.ready = producer :: others) (hp : Production t producer others u) : Released s u := by
  have hroster := State.roster_of_ready hr
  cases hp with
  | done hrows =>
    refine ⟨h.closed, h.accepted, fun e he hne => ?_⟩
    rcases h.refused e he hne with hm | hm
    · rw [hroster] at hm
      rcases List.mem_cons.mp hm with rfl | hm
      · exact absurd hrows hne
      · exact .inl hm
    · exact .inr (List.mem_append_left _ hm)
  | refused =>
    refine ⟨h.closed, h.accepted, fun e he hne => ?_⟩
    rcases h.refused e he hne with hm | hm
    · rw [hroster] at hm
      rcases List.mem_cons.mp hm with rfl | hm
      · exact .inr (List.mem_append_right _ List.mem_cons_self)
      · exact .inl hm
    · exact .inr (List.mem_append_left _ hm)
  | accepted _ hc | waits _ hc =>
    rw [h.closed] at hc
    cases hc

theorem loopMove (h : Released s t) {taken : List (Call α)} {refused : Option (Call α)}
    (hm : LoopMove t taken refused u) : Released s u := by
  have hk := hm.keeps
  have hd : t.draining = true := by
    have hc := h.closed
    rwa [State.isClosed, hm.hasEnded_eq_false, Bool.or_false] at hc
  refine ⟨?_, hk.accepted.trans h.accepted, ?_⟩
  · rw [State.isClosed, hk.draining hd, Bool.true_or]
  · rw [hk.roster, hk.ended]
    exact h.refused

theorem transition (h : Released s t) {event : Event α} (ht : Transition t event u) :
    Released s u := by
  cases ht with
  | loop hm => exact h.loopMove hm
  | produce hr hp => exact h.production hr hp
  | clock => exact ⟨h.closed, h.accepted, h.refused⟩
  | @step step ha =>
    cases step with
    | advance => cases ha
    | store rows =>
      refine ⟨h.closed, h.accepted, fun e he hne => ?_⟩
      refine (h.refused e he hne).imp_left fun hm => ?_
      obtain ⟨p, hp, rfl⟩ := List.mem_map.mp hm
      refine List.mem_map.mpr ⟨p, ?_, rfl⟩
      rcases List.mem_append.mp hp with hp | hp
      · exact List.mem_append_left _ (List.mem_append_left _ hp)
      · exact List.mem_append_right _ hp
    | _ => exact ⟨h.closed, h.accepted, h.refused⟩

/-- Where nothing more can happen, all of them have been refused. -/
theorem refused_of_isAtRest (h : Released s t) (hs : Slots t) (hr : t.IsAtRest) {e : Entry α}
    (he : e ∈ s.roster) (hne : e.rows ≠ []) : ⟨e.id, e.stored, false⟩ ∈ t.ended := by
  have hnil : t.roster = [] := by rw [State.roster, hr.2, hs.closed h.closed]; rfl
  rcases h.refused e he hne with hm | hm
  · rw [hnil] at hm
    cases hm
  · exact hm

end Released

theorem Path.released {s t : State α} {events : List (Event α)} (h : Path s events t)
    (hc : s.isClosed = true) : Released s t :=
  h.invariant (fun ht hs => hs.transition ht) (.refl hc)

theorem Slots.path {s t : State α} {events : List (Event α)} (hs : Slots s)
    (h : Path s events t) : Slots t := h.invariant (fun ht hs => hs.transition ht) hs

/-- What holds ever after the queue was closed, in a state or by a move out of it: nothing more is
accepted, and when the writer has come to rest every row that was left has been refused. -/
structure Sealed (s t : State α) : Prop where
  closed : t.isClosed = true
  accepted : t.accepted = s.accepted
  noneLeft : t.IsAtRest → t.ready = [] ∧ t.waiting = []
  refused : t.IsAtRest → ∀ p ∈ s.ready ++ s.waiting, p.rows ≠ [] →
    ⟨p.id, p.stored, false⟩ ∈ t.ended
  waiting : t.IsAtRest → ∀ p ∈ s.waiting, ⟨p.id, p.stored, false⟩ ∈ t.ended
  granted : t.IsAtRest → ∀ p ∈ s.ready, p.holdsSlot = true → ⟨p.id, p.stored, false⟩ ∈ t.ended

theorem Path.sealed {s t u : State α} {events : List (Event α)} (h : Path t events u)
    (hs : Slots s) (ht : Slots t) (hr : t.roster = s.roster) (ha : t.accepted = s.accepted)
    (hc : t.isClosed = true) : Sealed s u := by
  have hrel := h.released hc
  have hu := ht.path h
  have hrefused : u.IsAtRest → ∀ p ∈ s.ready ++ s.waiting, p.rows ≠ [] →
      ⟨p.id, p.stored, false⟩ ∈ u.ended := by
    intro hrest p hp hne
    have hentry := State.mem_roster hp
    rw [← hr] at hentry
    exact hrel.refused_of_isAtRest hu hrest hentry hne
  refine ⟨hrel.closed, hrel.accepted.trans ha, ?_, hrefused, ?_, ?_⟩
  · exact fun hrest => ⟨hrest.2, hu.closed hrel.closed⟩
  · intro hrest p hp
    exact hrefused hrest p (List.mem_append_right _ hp) (hs.waits p hp).2
  · intro hrest p hp hh
    exact hrefused hrest p (List.mem_append_left _ hp) (hs.holds p hp hh)

/-- A closed writer refuses the first row of every later producer. -/
theorem State.refused_of_isClosed {s : State α} (hs : Slots s) (hc : s.isClosed = true)
    {rows : List α} (hne : rows ≠ []) :
    ⟨s.spawned, 0, false⟩ ∈ (s.take (.store rows)).ended ∧
      (s.take (.store rows)).accepted = s.accepted := by
  obtain ⟨events, hp, -⟩ := leads_settle (s.spawnProducer rows)
  have hrel : Released (s.spawnProducer rows) (s.take (.store rows)) := hp.released hc
  have hnew : (⟨s.spawned, rows, 0, false⟩ : Producer α) ∈
      (s.spawnProducer rows).ready ++ s.waiting :=
    List.mem_append_left _ (List.mem_append_right _ List.mem_cons_self)
  have hslots := (hs.spawnProducer rows).path hp
  exact ⟨hrel.refused_of_isAtRest hslots (isAtRest_settle _) (mem_roster hnew) hne,
    hrel.accepted⟩

end Pageviews.Writer
