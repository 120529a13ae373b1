import Pageviews.Proofs.Writer.Backpressure
import Pageviews.Proofs.Writer.Conversation

/-! The batches of a run. Main statement: none is sent empty or with too many rows, at most one is
open, and one that waits for rows has room and time for them. -/
namespace Pageviews.Writer

variable {α : Type}

namespace Phase

def batch? : Phase α → Option (Batch α)
  | idle current => current
  | appending _ batch _ => some batch
  | sending batch _ _ _ => some batch
  | ended _ => none

def hasLost : Phase α → Bool
  | ended (some .appending) => true
  | ended (some (.sending _)) => true
  | _ => false

end Phase

/-- For the store a batch is open until it is sent, also when it is lost. -/
theorem State.Shows.isSome_eq {s : State α} {seen : Option (Seen α)} (h : s.Shows seen) :
    seen.isSome = (s.phase.batch?.isSome || s.phase.hasLost) := by
  cases hp : s.phase with
  | idle current =>
    have hidle := h.idle hp
    cases current with
    | none =>
      obtain rfl : seen = none := hidle
      rfl
    | some batch =>
      obtain ⟨b, rfl, -⟩ := hidle
      rfl
  | appending =>
    obtain ⟨b, rfl, -⟩ := h.appending hp
    rfl
  | sending =>
    obtain ⟨b, rfl, -⟩ := h.sending hp
    rfl
  | ended failure =>
    unfold State.Shows at h
    rw [hp] at h
    rcases failure with _ | _ | _ | rows
    · obtain rfl : seen = none := h
      rfl
    · obtain rfl : seen = none := h
      rfl
    · exact Option.isSome_iff_ne_none.mpr h
    · exact Option.isSome_iff_ne_none.mpr h

/-- Delivering a row sends nothing. -/
theorem Delivery.sent_eq_nil {s t : State α} {row : α} {current : Option (Batch α)}
    {taken : List (Call α)} {refused : Option (Call α)}
    (h : Delivery s row current taken refused t) : taken.filterMap Call.sent? = [] := by
  cases h <;> rfl

/-- The loop sends the batch that it is sending. -/
theorem LoopMove.sent_eq {s t : State α} {taken : List (Call α)} {refused : Option (Call α)}
    (h : LoopMove s taken refused t) {rows : List α} (hr : rows ∈ taken.filterMap Call.sent?) :
    ∃ batch trigger age next, s.phase = .sending batch trigger age next ∧ batch.rows = rows := by
  cases h with
  | take _ _ _ _ _ _ h | takeLate _ _ _ h =>
    rw [h.sent_eq_nil] at hr
    cases hr
  | sent hp | sentLast hp => exact ⟨_, _, _, _, hp, (List.mem_singleton.mp hr).symm⟩
  | @sentBefore batch _ _ _ taken _ _ hp _ _ h =>
    have hsent : (Call.send batch.rows :: taken).filterMap Call.sent? = [batch.rows] := by
      rw [← List.singleton_append, List.filterMap_append, h.sent_eq_nil]
      rfl
    rw [hsent] at hr
    exact ⟨_, _, _, _, hp, (List.mem_singleton.mp hr).symm⟩
  | _ => cases hr

theorem Phase.length_le_held (batch : Batch α) (trigger : Trigger) (age : Nat) (next : Next α) :
    batch.rows.length ≤ (sending batch trigger age next).held.length := by
  cases next with
  | append row =>
    rw [held, List.length_append]
    exact Nat.le_add_right _ _
  | _ => exact Nat.le_refl _

/-- A batch is sent with a row at least, and at most with those of a full one. -/
theorem Path.sent_size {policy : Policy} {start s : State α} {events : List (Event α)}
    (hs : State.spawn? policy = some start) (h : Path start events s) :
    ∀ rows ∈ events.flatMap Event.sent, 1 ≤ rows.length ∧ rows.length ≤ policy.fullSize := by
  induction h with
  | refl => nofun
  | @snoc s t events event h ht ih =>
    intro rows hr
    rw [List.flatMap_append, List.flatMap_singleton] at hr
    rcases List.mem_append.mp hr with hr | hr
    · exact ih rows hr
    · cases ht with
      | loop hm =>
        obtain ⟨batch, trigger, age, next, hp, rfl⟩ := hm.sent_eq hr
        have hrows := (h.inOrder hs).sending hp
        have hheld := (h.roomy hs).held
        rw [hp, h.policy_eq hs] at hheld
        constructor
        · exact List.length_pos_iff.mpr hrows
        · exact Nat.le_trans (Phase.length_le_held batch trigger age next) hheld
      | _ => cases hr

/-- A batch for which the loop waits for rows. -/
structure Waiting (policy : Policy) (now : Nat) (batch : Batch α) : Prop where
  rows : 1 ≤ batch.rows.length
  room : batch.rows.length < policy.batchSize
  past : batch.openedAt ≤ now
  age : now - batch.openedAt < policy.batchAge

/-- The batches at a point of a run at which the store has taken some calls. -/
structure WellBatched (policy : Policy) (calls : List (Taken α)) (s : State α) : Prop where
  store : s.store.sent = sentBy calls ∧ s.store.opened = openedBy calls
  size : ∀ rows ∈ s.store.sent, 1 ≤ rows.length ∧ rows.length ≤ policy.fullSize
  /-- The calls open, fill and send one batch after the other. -/
  conversation : ∃ seen, Conversation calls seen ∧
    seen.isSome = (s.phase.batch?.isSome || s.phase.hasLost)
  /-- At no time two batches were open. -/
  single : ∀ earlier, earlier <+: calls →
    (sentBy earlier).length ≤ openedBy earlier ∧ openedBy earlier ≤ (sentBy earlier).length + 1
  opened : s.store.opened =
    s.store.sent.length + if s.phase.batch?.isSome || s.phase.hasLost then 1 else 0
  waiting : s.move = none → ∀ batch, s.phase = .idle (some batch) → Waiting policy s.now batch

theorem Journal.waiting {policy : Policy} {start s : State α} {journal : List (Stamped α)}
    (hs : State.spawn? policy = some start) (h : Journal start journal s) (hm : s.move = none)
    {batch : Batch α} (hp : s.phase = .idle (some batch)) : Waiting policy s.now batch := by
  have hpolicy := h.path.policy_eq hs
  have hlen : 1 ≤ batch.rows.length := List.length_pos_iff.mpr ((h.path.inOrder hs).idle hp)
  have hroom : batch.rows.length < max 1 s.policy.batchSize := (h.path.roomy hs).idle _ hp
  have hdue : s.now < batch.openedAt + s.policy.batchAge :=
    State.now_lt_due hm (by rw [State.due?, hp])
  obtain ⟨seen, -, hshows⟩ := h.conversation hs
  obtain ⟨b, -, hb, -⟩ := hshows.idle hp
  have hpast : batch.openedAt ≤ s.now := hb.openedAt ▸ hb.past
  rw [hpolicy] at hroom hdue
  exact ⟨hlen, by omega, hpast, by omega⟩

theorem Journal.wellBatched {policy : Policy} {start s : State α} {journal : List (Stamped α)}
    (hs : State.spawn? policy = some start) (h : Journal start journal s) :
    WellBatched policy (taken journal) s := by
  obtain ⟨hsent, hopened⟩ := h.store hs
  obtain ⟨seen, hc, hshows⟩ := h.conversation hs
  have hseen := hshows.isSome_eq
  refine ⟨⟨hsent, hopened⟩, ?_, ⟨seen, hc, hseen⟩, ?_, ?_, fun hm batch => h.waiting hs hm⟩
  · rw [hsent, sentBy_taken]
    exact h.path.sent_size hs
  · intro earlier hearlier
    obtain ⟨before, hbefore⟩ := hc.exists_of_prefix hearlier
    have hcount := hbefore.openedBy_eq
    split at hcount <;> omega
  · rw [hopened, hsent, hc.openedBy_eq, hseen]

/-- The batches of a run are well formed, at every point of it and whenever the writer answers. -/
theorem well_batched {policy : Policy} {start : State α} (hs : State.spawn? policy = some start) :
    (∀ journal s, Journal start journal s → WellBatched policy (taken journal) s) ∧
    ∀ (steps : List (Step α)) (states : List (State α)) (i : Nat) (s : State α),
      start.run? steps = some states → states[i]? = some s →
      s.move = none ∧ ∃ journal, Journal start journal s ∧
        (journal.map Stamped.event).filterMap Event.step? =
          (steps.take (i + 1)).filter (!·.isAdvance) ∧
        WellBatched policy (taken journal) s := by
  constructor
  · exact fun journal s h => h.wellBatched hs
  · intro steps states i s hrun hi
    have hrest := State.isAtRest_of_spawn? hs
    obtain ⟨hr, -⟩ := State.exists_path_of_run? hrest hrun hi
    obtain ⟨journal, hj, he⟩ := State.exists_journal_of_run? hrest hrun hi
    exact ⟨hr.1, journal, hj, he, hj.wellBatched hs⟩

/-- A batch that waits for a second row, and is then lost because the store does not take it. -/
theorem well_batched_until_lost : ∃ (start s t : State Nat) (states : List (State Nat))
    (calls more : List (Taken Nat)),
    State.spawn? ⟨4, 2, 10⟩ = some start ∧
    start.run? [.store [7, 8, 9], .failOn .sending, .advance 10] = some states ∧
    states[0]? = some s ∧ states[2]? = some t ∧
    (s.store.sent, s.store.opened, s.phase) = ([[7, 8]], 2, .idle (some ⟨[9], 0⟩)) ∧
    (t.store.sent, t.store.opened, t.phase) = ([[7, 8]], 2, .ended (some (.sending 1))) ∧
    WellBatched ⟨4, 2, 10⟩ calls s ∧ Waiting ⟨4, 2, 10⟩ s.now ⟨[9], 0⟩ ∧
    WellBatched ⟨4, 2, 10⟩ more t := by
  have heval : ((State.spawn? ⟨4, 2, 10⟩).bind fun start =>
      (start.run? [.store [7, 8, 9], .failOn .sending, .advance 10]).bind fun states =>
        states[0]?.map fun s => ((s.store.sent, s.store.opened, s.phase),
          states[2]?.map fun t => (t.store.sent, t.store.opened, t.phase))) =
      some (([[7, 8]], 2, .idle (some ⟨[9], 0⟩)),
        some ([[7, 8]], 2, .ended (some (.sending 1)))) := by cbv
  obtain ⟨start, states, s, hs, hrun, hi, heval⟩ := State.exists_answer_of_spawn? heval
  obtain ⟨hopen, hlater⟩ := Prod.mk.inj heval
  obtain ⟨t, hj, hlost⟩ := Option.map_eq_some_iff.mp hlater
  have hphase : s.phase = .idle (some ⟨[9], 0⟩) := (Prod.mk.inj (Prod.mk.inj hopen).2).2
  obtain ⟨-, h⟩ := well_batched hs
  obtain ⟨hm, journal, -, -, hws⟩ := h _ _ 0 s hrun hi
  obtain ⟨-, later, -, -, hwt⟩ := h _ _ 2 t hrun hj
  exact ⟨start, s, t, states, _, _, hs, hrun, hi, hj, hopen, hlost, hws,
    hws.waiting hm _ hphase, hwt⟩

end Pageviews.Writer
