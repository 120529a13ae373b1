import Pageviews.Proofs.Writer.FailStop
import Pageviews.Writer.Notice

/-! What the writer logs, next to what its store has. Main statement: there is a record for each
batch in the store, and the one at the end has the sums. -/
namespace Pageviews.Writer

variable {α : Type} {s t : State α}

structure Report where
  rows : Nat
  trigger : Trigger
  age : Nat

def Report.toRecord (r : Report) : Log.Record :=
  Notice.toRecord (.batchSent r.rows r.trigger r.age)

namespace Notice

def report? : Notice → Option Report
  | batchSent rows trigger age => some ⟨rows, trigger, age⟩
  | _ => none

def isFinal : Notice → Bool
  | stopped .. => true
  | failed .. => true
  | _ => false

end Notice

namespace State

def records (s : State α) : List Log.Record := s.notices.map Notice.toRecord

def reports (s : State α) : List Report := s.notices.filterMap Notice.report?

def finalNotice? (s : State α) : Option Notice :=
  match s.phase with
  | .ended none => some (.stopped s.batchesSent s.rowsSent)
  | .ended (some failure) => some (.failed failure s.batchesSent s.rowsSent)
  | _ => none

theorem finalNotice?_eq_none (h : s.hasEnded = false) : s.finalNotice? = none := by
  unfold finalNotice?
  cases hp : s.phase with
  | ended failure => simp [hasEnded, hp] at h
  | _ => rfl

theorem notices_stop (s : State α) (failure : Option Failure) :
    (s.stop failure).notices = s.notices ++ (s.stop failure).finalNotice?.toList := by
  cases failure <;> rfl

theorem tells_grantSlot (s : State α) :
    s.grantSlot.notices = s.notices ∧ s.grantSlot.batchesSent = s.batchesSent ∧
      s.grantSlot.rowsSent = s.rowsSent := by
  unfold grantSlot
  split <;> exact ⟨rfl, rfl, rfl⟩

end State

/-- What a move of the loop tells, before it ends the loop if it does. -/
inductive Telling (s t : State α) : List Notice → Prop where
  | nothing (hsent : t.store.sent = s.store.sent) (hb : t.batchesSent = s.batchesSent)
      (hr : t.rowsSent = s.rowsSent) : Telling s t []
  | draining (hsent : t.store.sent = s.store.sent) (hb : t.batchesSent = s.batchesSent)
      (hr : t.rowsSent = s.rowsSent) : Telling s t [.draining]
  | sent {batch : Batch α} {trigger : Trigger} {age : Nat} {next : Next α}
      (hp : s.phase = .sending batch trigger age next)
      (hsent : t.store.sent = s.store.sent ++ [batch.rows])
      (hb : t.batchesSent = s.batchesSent + 1)
      (hr : t.rowsSent = s.rowsSent + batch.rows.length)
      (hn : next = .stop → t.phase = .ended none) :
      Telling s t [.batchSent batch.rows.length trigger age]

theorem Delivery.tells {row : α} {current : Option (Batch α)} {taken : List (Call α)}
    {refused : Option (Call α)} (h : Delivery s row current taken refused t) :
    t.notices = s.notices ++ t.finalNotice?.toList ∧ t.store.sent = s.store.sent ∧
      t.batchesSent = s.batchesSent ∧ t.rowsSent = s.rowsSent := by
  cases h with
  | notOpened | notNext => exact ⟨State.notices_stop _ _, rfl, rfl, rfl⟩
  | notFirst => exact ⟨State.notices_stop _ _, rfl, rfl, rfl⟩
  | first | tooOld | next => exact ⟨(List.append_nil _).symm, rfl, rfl, rfl⟩

/-- A move tells of the batch that the store has taken in it, and last that the loop has ended. -/
theorem LoopMove.tells {taken : List (Call α)} {refused : Option (Call α)}
    (h : LoopMove s taken refused t) :
    ∃ told, Telling s t told ∧ t.notices = s.notices ++ told ++ t.finalNotice?.toList := by
  cases h with
  | beginDrain hp =>
    have hrunning : s.beginDrain.hasEnded = false := by
      rw [State.hasEnded, show s.beginDrain.phase = _ from hp]
    refine ⟨_, .draining rfl rfl rfl, ?_⟩
    rw [State.finalNotice?_eq_none hrunning, Option.toList_none, List.append_nil]
    rfl
  | expire | flush | fill | outlive | join =>
    refine ⟨_, .nothing rfl rfl rfl, ?_⟩
    rw [List.append_nil]
    exact (List.append_nil _).symm
  | @take _ _ queue _ _ _ _ _ _ _ _ _ h =>
    obtain ⟨hn, hs, hb, hr⟩ := h.tells
    obtain ⟨hn', hb', hr'⟩ := State.tells_grantSlot ({ s with queue } : State α)
    refine ⟨_, .nothing ?_ (hb.trans hb') (hr.trans hr'), ?_⟩
    · rw [hs, State.store_grantSlot]
    · rw [hn, hn', List.append_nil]
  | takeLate _ _ _ h =>
    obtain ⟨hn, hs, hb, hr⟩ := h.tells
    exact ⟨_, .nothing hs hb hr, by rw [hn, List.append_nil]⟩
  | finish => exact ⟨_, .nothing rfl rfl rfl, by rw [State.notices_stop, List.append_nil]⟩
  | notSent => exact ⟨_, .nothing rfl rfl rfl, by rw [State.notices_stop, List.append_nil]⟩
  | sent hp =>
    refine ⟨_, .sent hp rfl rfl rfl fun hn => ?_, (List.append_nil _).symm⟩
    cases hn
  | sentBefore hp _ _ h =>
    obtain ⟨hn, hs, hb, hr⟩ := h.tells
    refine ⟨_, .sent hp hs hb hr fun hn => ?_, hn⟩
    cases hn
  | sentLast hp => exact ⟨_, .sent hp rfl rfl rfl fun _ => rfl, State.notices_stop _ _⟩

/-- Nothing but a move of the loop is told. -/
theorem Transition.tells {event : Event α} (h : Transition s event t) :
    (∃ taken refused, LoopMove s taken refused t) ∨
      t.notices = s.notices ∧ t.phase = s.phase ∧ t.store.sent = s.store.sent ∧
        t.batchesSent = s.batchesSent ∧ t.rowsSent = s.rowsSent := by
  cases h with
  | loop h => exact .inl ⟨_, _, h⟩
  | produce _ h => cases h <;> exact .inr ⟨rfl, rfl, rfl, rfl, rfl⟩
  | clock => exact .inr ⟨rfl, rfl, rfl, rfl, rfl⟩
  | @step step ha =>
    cases step with
    | advance => cases ha
    | _ => exact .inr ⟨rfl, rfl, rfl, rfl, rfl⟩

/-- The counters and the notices agree with the store. -/
structure Accounts (s : State α) : Prop where
  reports : s.reports.map Report.rows = s.store.sent.map List.length
  batches : s.batchesSent = s.store.sent.length
  rows : s.rowsSent = s.store.rows
  finals : s.notices.filter Notice.isFinal = s.finalNotice?.toList
  last : ∀ notice, s.finalNotice? = some notice → s.notices.getLast? = some notice

namespace State

theorem report?_finalNotice (s : State α) :
    s.finalNotice?.toList.filterMap Notice.report? = [] := by
  unfold finalNotice?
  split <;> rfl

theorem isFinal_finalNotice (s : State α) :
    s.finalNotice?.toList.filter Notice.isFinal = s.finalNotice?.toList := by
  unfold finalNotice?
  split <;> rfl

end State

/-- The reports are all told before the end of the loop. -/
theorem State.reports_eq {told : List Notice}
    (hn : t.notices = s.notices ++ told ++ t.finalNotice?.toList) :
    t.reports = s.reports ++ told.filterMap Notice.report? := by
  rw [reports, hn, List.filterMap_append, List.filterMap_append, t.report?_finalNotice,
    List.append_nil, reports]

theorem LoopMove.accounts {taken : List (Call α)} {refused : Option (Call α)}
    (h : LoopMove s taken refused t) (hs : Accounts s) : Accounts t := by
  obtain ⟨told, htelling, hn⟩ := h.tells
  have hreports := State.reports_eq hn
  have hbefore : s.notices.filter Notice.isFinal = [] := by
    rw [hs.finals, State.finalNotice?_eq_none h.hasEnded_eq_false]
    rfl
  have hfinals : t.notices.filter Notice.isFinal = t.finalNotice?.toList := by
    have htold : told.filter Notice.isFinal = [] := by cases htelling <;> rfl
    rw [hn, List.filter_append, List.filter_append, hbefore, htold, t.isFinal_finalNotice]
    rfl
  have hlast : ∀ notice, t.finalNotice? = some notice → t.notices.getLast? = some notice := by
    intro notice hnotice
    rw [hn, hnotice]
    exact List.getLast?_concat
  cases htelling with
  | nothing hsent hb hr | draining hsent hb hr =>
    exact {
      reports := by rw [hreports, hsent, ← hs.reports]; exact congrArg _ (List.append_nil _)
      batches := by rw [hb, hsent, hs.batches]
      rows := by rw [hr, hs.rows, Store.Memory.rows, Store.Memory.rows, hsent]
      finals := hfinals
      last := hlast }
  | sent _ hsent hb hr =>
    exact {
      reports := by
        rw [hreports, hsent, List.map_append, List.map_append, hs.reports]
        rfl
      batches := by rw [hb, hsent, hs.batches, List.length_append, List.length_singleton]
      rows := by
        rw [hr, hs.rows, Store.Memory.rows, Store.Memory.rows, hsent, List.flatten_append,
          List.length_append, List.flatten_singleton]
      finals := hfinals
      last := hlast }

theorem Transition.accounts {event : Event α} (h : Transition s event t) (hs : Accounts s) :
    Accounts t := by
  rcases h.tells with ⟨_, _, hm⟩ | ⟨hn, hp, hsent, hb, hr⟩
  · exact hm.accounts hs
  · have hfinal : t.finalNotice? = s.finalNotice? := by
      rw [State.finalNotice?, hp, hb, hr, State.finalNotice?]
    exact {
      reports := by rw [State.reports, hn, hsent]; exact hs.reports
      batches := by rw [hb, hsent]; exact hs.batches
      rows := by rw [hr, hs.rows, Store.Memory.rows, Store.Memory.rows, hsent]
      finals := by rw [hn, hfinal]; exact hs.finals
      last := by rw [hn, hfinal]; exact hs.last }

theorem Path.accounts {policy : Policy} {start : State α} {events : List (Event α)}
    (hs : State.spawn? policy = some start) (h : Path start events s) : Accounts s := by
  refine h.invariant (fun ht => ht.accounts) ?_
  obtain rfl := State.eq_fresh hs
  exact ⟨rfl, rfl, rfl, rfl, nofun⟩

/-- A writer that has ended tells nothing more. -/
theorem Path.notices_eq {events : List (Event α)} (h : Path s events t) (he : s.hasEnded = true) :
    t.notices = s.notices := by
  induction h with
  | refl => rfl
  | @snoc t u _ _ h ht ih =>
    have hended : t.hasEnded = true := by
      rw [State.hasEnded, (h.settled he).phase]
      exact he
    rcases ht.tells with ⟨_, _, hm⟩ | ⟨hn, -⟩
    · rw [hm.hasEnded_eq_false] at hended
      cases hended
    · exact hn.trans ih

namespace State

def sentRecords (s : State α) : List Log.Record :=
  s.records.filter (·.message = "Pageview batch sent")

def finalRecords (s : State α) : List Log.Record :=
  s.records.filter fun record =>
    record.message = "Pageview writer stopped" ∨ record.message = "Pageview writer failed"

theorem sentRecords_eq (s : State α) : s.sentRecords = s.reports.map Report.toRecord := by
  unfold sentRecords records reports
  induction s.notices with
  | nil => rfl
  | cons notice notices ih =>
    rw [List.filterMap_cons, List.map_cons, List.filter_cons, ih]
    cases notice <;> simp [Notice.toRecord, Notice.report?, Report.toRecord]

theorem finalRecords_eq (s : State α) :
    s.finalRecords = (s.notices.filter Notice.isFinal).map Notice.toRecord := by
  rw [finalRecords, records, List.filter_map]
  congr 2
  funext notice
  cases notice <;> simp [Notice.toRecord, Notice.isFinal]

end State

structure LogAgrees (s : State α) : Prop where
  /-- Each batch in the store has its record, with the number of its rows. -/
  sent : List.Forall₂ (fun record rows => record.fields.lookup "rows" = some (.number rows.length))
    s.sentRecords s.store.sent
  running : s.hasEnded = false → s.finalRecords = []
  stopped : s.phase = .ended none → s.finalRecords = [⟨.info, "Pageview writer stopped",
    [("batches_sent", .number s.store.sent.length), ("rows_sent", .number s.store.rows)]⟩]
  failed : ∀ failure, s.phase = .ended (some failure) →
    s.finalRecords = [⟨.error, "Pageview writer failed",
      [("error", .text failure.message), ("batches_sent", .number s.store.sent.length),
        ("rows_sent", .number s.store.rows)]⟩]
  last : ∀ record ∈ s.finalRecords, s.records.getLast? = some record

theorem Accounts.rows_eq (h : Accounts s) :
    List.Forall₂ (fun report rows => report.rows = rows.length) s.reports s.store.sent := by
  have heq : List.Forall₂ Eq (s.reports.map Report.rows) (s.store.sent.map List.length) := by
    rw [List.forall₂_eq_eq_eq]
    exact h.reports
  rwa [List.forall₂_map_left_iff, List.forall₂_map_right_iff] at heq

theorem Accounts.logAgrees (h : Accounts s) : LogAgrees s := by
  have hfinal : s.finalRecords = s.finalNotice?.toList.map Notice.toRecord := by
    rw [s.finalRecords_eq, h.finals]
  refine ⟨?_, fun he => ?_, fun hp => ?_, fun failure hp => ?_, fun record hrecord => ?_⟩
  · rw [s.sentRecords_eq, List.forall₂_map_left_iff]
    refine h.rows_eq.imp fun report rows hrows => ?_
    rw [← hrows]
    rfl
  · rw [hfinal, State.finalNotice?_eq_none he]
    rfl
  · rw [hfinal, State.finalNotice?, hp, h.batches, h.rows]
    rfl
  · rw [hfinal, State.finalNotice?, hp, h.batches, h.rows]
    rfl
  · rw [hfinal] at hrecord
    obtain ⟨notice, hnotice, rfl⟩ := List.mem_map.mp hrecord
    rw [State.records, List.getLast?_map, h.last notice (Option.mem_toList.mp hnotice)]
    rfl

/-- What was logged and stored when the writer ended stays so. -/
structure Closed (s t : State α) : Prop where
  records : t.records = s.records
  sent : t.store.sent = s.store.sent
  phase : t.phase = s.phase

theorem Path.closed {events : List (Event α)} (h : Path s events t) (he : s.hasEnded = true) :
    Closed s t where
  records := by rw [State.records, h.notices_eq he, State.records]
  sent := (h.settled he).sent
  phase := (h.settled he).phase

/-- The records of a writer agree with its store, in every run: one for each batch, and one with the
sums when it ends, which hold ever after. -/
theorem log_agrees {policy : Policy} {start : State α} (hs : State.spawn? policy = some start) :
    (∀ events s, Path start events s → LogAgrees s ∧
      ∀ more t, Path s more t → s.hasEnded = true → Closed s t) ∧
    ∀ (steps : List (Step α)) (states : List (State α)), start.run? steps = some states →
      ∀ (i : Nat) (s : State α), states[i]? = some s → LogAgrees s ∧
        ∀ (j : Nat) (t : State α), i ≤ j → states[j]? = some t → s.hasEnded = true →
          Closed s t := by
  have hr := State.isAtRest_of_spawn? hs
  constructor
  · exact fun events s h => ⟨(h.accounts hs).logAgrees, fun more t ht => ht.closed⟩
  · intro steps states hrun i s hi
    obtain ⟨-, events, h, -⟩ := State.exists_path_of_run? hr hrun hi
    refine ⟨(h.accounts hs).logAgrees, fun j t hij hj he => ?_⟩
    obtain ⟨more, ht⟩ := State.exists_path_between hr hrun hi hij hj
    exact ht.closed he

/-- The second batch waits for the store to go on, and is then refused. -/
theorem log_agrees_refused : ∃ (start s : State Nat) (states : List (State Nat)),
    State.spawn? ⟨4, 2, 10⟩ = some start ∧
    start.run? [.store [7, 8], .stall, .store [9, 5], .failOn .sending, .resume, .look] =
      some states ∧
    states[4]? = some s ∧ s.store.sent = [[7, 8]] ∧ s.finalRecords = [⟨.error,
      "Pageview writer failed", [("error", .text (Failure.sending 2).message),
        ("batches_sent", .number 1), ("rows_sent", .number 2)]⟩] ∧
    LogAgrees s := by
  have heval : ((State.spawn? ⟨4, 2, 10⟩).bind fun start =>
      (start.run? [.store [7, 8], .stall, .store [9, 5], .failOn .sending, .resume, .look]).bind
        fun states => states[4]?.map fun (s : State Nat) => (s.phase, s.store.sent)) =
      some (.ended (some (.sending 2)), [[7, 8]]) := by cbv
  obtain ⟨start, states, s, hs, hrun, hi, heval⟩ := State.exists_answer_of_spawn? heval
  obtain ⟨hphase, hsent⟩ := Prod.mk.inj heval
  obtain ⟨-, h⟩ := log_agrees hs
  have hagrees := (h _ _ hrun 4 s hi).1
  refine ⟨start, s, states, hs, hrun, hi, hsent, ?_, hagrees⟩
  rw [hagrees.failed _ hphase, Store.Memory.rows, hsent]
  rfl

end Pageviews.Writer
