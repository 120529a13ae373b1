import Mathlib.Algebra.GroupWithZero.Nat
import Pageviews.Proofs.Store.Transcript

/-! The store as a log of batches. Main statement: after any calls the store has the batches whose
sends succeeded, in the order in which the sends ended, each with the rows that it took. -/
namespace Pageviews.Store

variable {α : Type}

def Session.sendOutcome? (s : Session α) : Option (Outcome α) :=
  if s.store.stalled then none
  else if s.store.fails .sending then some (.refused .sending)
  else some .sent

/-- Each task that sends a batch has its rows; it waits, or it has succeeded or failed. -/
structure Delivered (said : List (Exchange α)) (s : Session α) : Prop where
  started : ∀ send ∈ sendsIn said, send.1 < s.started
  pending : ∀ task ∈ s.pending, task.1 < s.started
  ended : ∀ task ∈ s.ended, task.1 < s.started
  sending : ∀ task rows, (task, Task.send rows) ∈ s.pending →
    ∃ batch, (sendsIn said).lookup task = some batch ∧ rowsOf said batch = rows
  sent : s.store.sent = (batchesOf said Outcome.isSent s.ended).map (rowsOf said)
  sends : (batchesOf said Task.isSend s.pending ++
    (batchesOf said Outcome.isSent s.ended ++ batchesOf said Outcome.isRefused s.ended)).Perm
      ((sendsIn said).map Prod.snd)

section

variable {said : List (Exchange α)} {s t : Session α} {e : Exchange α} {call : Call α}
  {reply : Reply α}

namespace Delivered

/-- A call that sends nothing and adds no row to a batch that is sent. -/
theorem other (h : Delivered said s) (hs : e.send? = none)
    (ha : ∀ batch ∈ (sendsIn said).map Prod.snd, e.appended? batch = none)
    (hsent : t.store.sent = s.store.sent) (hstarted : t.started = s.started)
    (hpending : t.pending = s.pending) (hended : t.ended = s.ended) :
    Delivered (said ++ [e]) t := by
  have hrows (batch : Nat) (hmem : batch ∈ (sendsIn said).map Prod.snd) :
      rowsOf (said ++ [e]) batch = rowsOf said batch := by
    rw [rowsOf_snoc, ha batch hmem]
    exact List.append_nil _
  exact {
    started := by rw [sendsIn_of_none hs, hstarted]; exact h.started
    pending := by rw [hpending, hstarted]; exact h.pending
    ended := by rw [hended, hstarted]; exact h.ended
    sending := by
      intro task rows hmem
      rw [hpending] at hmem
      obtain ⟨batch, hbatch, hall⟩ := h.sending task rows hmem
      refine ⟨batch, ?_, ?_⟩
      · rw [sendsIn_of_none hs, hbatch]
      · rw [hrows batch (mem_sends_of_lookup hbatch), hall]
    sent := by
      rw [hsent, h.sent, hended, batchesOf_of_none hs]
      exact (List.map_congr_left fun batch hmem => hrows batch (mem_sends_of_mem hmem)).symm
    sends := by
      simp only [hpending, hended, batchesOf_of_none hs, sendsIn_of_none hs]
      exact h.sends }

theorem wait (h : Delivered said s) (count : Nat) : Delivered said (s.start (.wait count)) where
  started send hmem := Nat.lt_succ_of_lt (h.started send hmem)
  pending := by
    intro task hmem
    rcases List.mem_append.mp hmem with hold | hnew
    · exact Nat.lt_succ_of_lt (h.pending task hold)
    · rw [List.mem_singleton.mp hnew]
      exact Nat.lt_succ_self _
  ended task hmem := Nat.lt_succ_of_lt (h.ended task hmem)
  sending := by
    intro task rows hmem
    rcases List.mem_append.mp hmem with hold | hnew
    · exact h.sending task rows hold
    · cases List.mem_singleton.mp hnew
  sent := h.sent
  sends := by
    rw [Session.start, batchesOf_append]
    simpa [batchesOf, Task.isSend] using h.sends

theorem lookup_started (h : Delivered said s) (batch : Nat) :
    (sendsIn said ++ [(s.started, batch)]).lookup s.started = some batch := by
  have hnone : (sendsIn said).lookup s.started = none := by
    rw [List.lookup_eq_none_iff]
    intro send hmem
    simpa using Nat.ne_of_gt (h.started send hmem)
  rw [List.lookup_append, hnone]
  simp

theorem lookup_before (s : Session α) (batch : Nat) {task : Nat} (hlt : task < s.started) :
    (sendsIn said ++ [(s.started, batch)]).lookup task = (sendsIn said).lookup task := by
  have hne : (task == s.started) = false := by simpa using Nat.ne_of_lt hlt
  rw [List.lookup_append, List.lookup_cons, hne]
  simp

theorem send (h : Delivered said s) (hf : Filed said s) {batch : Nat} {rows : List α}
    (hb : s.batch? batch = some rows) (batches : List (Option (List α))) :
    Delivered (said ++ [⟨.send batch, .started s.started⟩])
      (Session.start { s with batches } (.send rows)) := by
  have hsends : sendsIn (said ++ [⟨.send batch, .started s.started⟩]) =
      sendsIn said ++ [(s.started, batch)] := sendsIn_snoc
  have hrows : rowsOf (said ++ [⟨.send batch, .started s.started⟩]) = rowsOf said :=
    rowsOf_of_none fun _ => rfl
  have hold {β : Type} {kind : β → Bool} {tasks : List (Nat × β)}
      (ht : ∀ task ∈ tasks, task.1 < s.started) :
      batchesOf (said ++ [⟨.send batch, .started s.started⟩]) kind tasks =
        batchesOf said kind tasks := by
    refine batchesOf_congr fun task hmem => ?_
    rw [hsends, lookup_before s batch (ht task hmem)]
  exact {
    started := by
      intro send hmem
      rw [hsends] at hmem
      rcases List.mem_append.mp hmem with hbefore | hnew
      · exact Nat.lt_succ_of_lt (h.started send hbefore)
      · rw [List.mem_singleton.mp hnew]
        exact Nat.lt_succ_self _
    pending := by
      intro task hmem
      rcases List.mem_append.mp hmem with hbefore | hnew
      · exact Nat.lt_succ_of_lt (h.pending task hbefore)
      · rw [List.mem_singleton.mp hnew]
        exact Nat.lt_succ_self _
    ended := fun task hmem => Nat.lt_succ_of_lt (h.ended task hmem)
    sending := by
      intro task more hmem
      rw [hsends, hrows]
      rcases List.mem_append.mp hmem with hbefore | hnew
      · rw [lookup_before s batch (h.pending _ hbefore)]
        exact h.sending task more hbefore
      · cases List.mem_singleton.mp hnew
        exact ⟨batch, h.lookup_started batch, hf.rows batch rows hb⟩
    sent := by
      rw [hrows]
      show s.store.sent = (batchesOf _ _ s.ended).map _
      rw [hold h.ended]
      exact h.sent
    sends := by
      show (batchesOf _ _ (s.pending ++ [(s.started, Task.send rows)]) ++
        (batchesOf _ _ s.ended ++ batchesOf _ _ s.ended)).Perm _
      have hnew : batchesOf (said ++ [⟨.send batch, .started s.started⟩]) Task.isSend
          [(s.started, Task.send rows)] = [batch] := by
        simp [batchesOf, Task.isSend, hsends, h.lookup_started]
      rw [batchesOf_append, hold h.pending, hold h.ended, hold h.ended, hnew, hsends,
        List.map_append]
      exact (perm_move _ _ _).trans (h.sends.append_right _) }

theorem performed (h : Delivered said s) (hf : Filed said s) (hp : s.Performed call reply t) :
    Delivered (said ++ [⟨call, reply⟩]) t := by
  cases hp with
  | sending hb => exact h.send hf hb _
  | waiting count => exact (h.wait count).other rfl (fun _ _ => rfl) rfl rfl rfl rfl
  | appended hb hfails =>
    refine h.other rfl (fun batch hmem => if_neg ?_) rfl rfl rfl rfl
    rintro rfl
    exact hf.notMem_sends hb hmem
  | _ => exact h.other rfl (fun _ _ => rfl) rfl rfl rfl rfl

end Delivered

namespace Session

theorem outcome?_send (s : Session α) (sent : List (List α)) (rows : List α) :
    s.outcome? sent (.send rows) = s.sendOutcome? := rfl

theorem sendOutcome?_cases (s : Session α) :
    s.sendOutcome? = none ∨ s.sendOutcome? = some .sent ∨
      s.sendOutcome? = some (.refused .sending) := by
  unfold sendOutcome?
  split
  · exact .inl rfl
  · split
    · exact .inr (.inr rfl)
    · exact .inr (.inl rfl)

/-- The sends that wait end all together. -/
theorem batchesOf_outcomes (s : Session α) (kind : Outcome α → Bool) (sent : List (List α))
    (hk : kind (.batches sent) = false) :
    batchesOf said kind (s.pending.filterMap fun task => (s.outcome? sent task.2).map (task.1, ·)) =
      if s.sendOutcome?.any kind then batchesOf said Task.isSend s.pending else [] := by
  have hpoint (task : Nat × Task α) :
      (((s.outcome? sent task.2).map (task.1, ·)).bind fun ended =>
        if kind ended.2 then (sendsIn said).lookup ended.1 else none) =
      if s.sendOutcome?.any kind ∧ task.2.isSend then (sendsIn said).lookup task.1 else none := by
    obtain ⟨id, task⟩ := task
    cases task with
    | send rows => cases ho : s.sendOutcome? <;> simp [outcome?_send, Task.isSend, ho]
    | wait count =>
      by_cases hle : count ≤ sent.length <;> simp [outcome?, Task.isSend, hle, hk]
  rw [batchesOf, List.filterMap_filterMap]
  simp only [hpoint]
  split
  · rename_i hany
    simp only [hany, true_and]
    rfl
  · rename_i hany
    simp [hany]

theorem batchesOf_waiting (s : Session α) (sent : List (List α)) :
    batchesOf said Task.isSend (s.pending.filter fun task => (s.outcome? sent task.2).isNone) =
      if s.sendOutcome?.isNone then batchesOf said Task.isSend s.pending else [] := by
  have hpoint (task : Nat × Task α) :
      (if (s.outcome? sent task.2).isNone then
        if task.2.isSend then (sendsIn said).lookup task.1 else none else none) =
      if s.sendOutcome?.isNone ∧ task.2.isSend then (sendsIn said).lookup task.1 else none := by
    obtain ⟨id, task⟩ := task
    cases task with
    | send rows => simp [outcome?_send, Task.isSend]
    | wait count => simp [Task.isSend]
  rw [batchesOf, List.filterMap_filter]
  simp only [hpoint]
  split
  · rename_i hnone
    simp only [hnone, true_and]
    rfl
  · rename_i hsome
    simp [hsome]

end Session

namespace Delivered

/-- What the store takes are the rows of the batches that are being sent. -/
theorem sendable (h : Delivered said s) :
    s.sendable = if s.sendOutcome?.any Outcome.isSent then
      (batchesOf said Task.isSend s.pending).map (rowsOf said) else [] := by
  cases hstall : s.store.stalled with
  | true => simp [Session.sendable, Session.sendOutcome?, hstall]
  | false =>
    cases hfail : s.store.fails .sending with
    | true => simp [Session.sendable, Session.sendOutcome?, hstall, hfail, Outcome.isSent]
    | false =>
      simp only [Session.sendable, Session.sendOutcome?, hstall, hfail, Outcome.isSent,
        Bool.or_self, Bool.false_eq_true, if_false, Option.any_some, if_true, batchesOf,
        List.map_filterMap]
      refine List.filterMap_congr ?_
      rintro ⟨id, task⟩ hmem
      cases task with
      | wait count => rfl
      | send rows =>
        obtain ⟨batch, hbatch, hall⟩ := h.sending id rows hmem
        simp [Task.isSend, hbatch, hall]

/-- No batch that was dropped or whose send failed is among those whose send succeeded. -/
theorem traceless (h : Delivered said s) (hf : Filed said s) :
    ∀ batch ∈ droppedIn said ++ batchesOf said Outcome.isRefused s.ended,
      batch ∉ batchesOf said Outcome.isSent s.ended := by
  have hclosed : (droppedIn said ++ (sendsIn said).map Prod.snd).Nodup :=
    (List.nodup_append.mp (hf.places.nodup_iff.mpr List.nodup_range)).2.1
  obtain ⟨-, hsends, hdropped⟩ := List.nodup_append.mp hclosed
  have hended := (List.nodup_append.mp (h.sends.nodup_iff.mpr hsends)).2.1
  intro batch hgone hsent
  rcases List.mem_append.mp hgone with hdrop | hrefused
  · exact hdropped batch hdrop batch (mem_sends_of_mem hsent) rfl
  · exact (List.nodup_append.mp hended).2.2 batch hsent batch hrefused rfl

theorem settle (h : Delivered said s) : Delivered said s.settle where
  started := h.started
  pending := by
    intro task hmem
    rw [Session.pending_settle] at hmem
    exact h.pending task (List.mem_of_mem_filter hmem)
  ended := by
    intro task hmem
    rw [Session.ended_settle, List.mem_append, List.mem_filterMap] at hmem
    rcases hmem with hbefore | ⟨pending, hpending, houtcome⟩
    · exact h.ended task hbefore
    · obtain ⟨outcome, -, rfl⟩ := Option.map_eq_some_iff.mp houtcome
      exact h.pending pending hpending
  sending := by
    intro task rows hmem
    rw [Session.pending_settle] at hmem
    exact h.sending task rows (List.mem_of_mem_filter hmem)
  sent := by
    rw [Session.sent_settle, Session.ended_settle, batchesOf_append, List.map_append, ← h.sent,
      s.batchesOf_outcomes _ _ rfl, h.sendable]
    split <;> rfl
  sends := by
    rw [Session.pending_settle, Session.ended_settle, batchesOf_append, batchesOf_append,
      s.batchesOf_outcomes _ _ rfl, s.batchesOf_outcomes _ _ rfl, s.batchesOf_waiting]
    refine List.Perm.trans ?_ h.sends
    rcases s.sendOutcome?_cases with ho | ho | ho
    · simp [ho]
    · simpa [ho, Outcome.isSent, Outcome.isRefused] using
        (List.perm_append_comm_assoc (batchesOf said Outcome.isSent s.ended) _ _)
    · have hperm : (batchesOf said Outcome.isSent s.ended ++
          (batchesOf said Outcome.isRefused s.ended ++ batchesOf said Task.isSend s.pending)).Perm
          (batchesOf said Task.isSend s.pending ++
            (batchesOf said Outcome.isSent s.ended ++
              batchesOf said Outcome.isRefused s.ended)) := by
        rw [← List.append_assoc]
        exact List.perm_append_comm
      simpa [ho, Outcome.isSent, Outcome.isRefused] using hperm

end Delivered

namespace Session

namespace Performed

variable (hp : s.Performed call reply t)
include hp

theorem settings :
    t.store.stalled = (Exchange.mk call reply).stalled?.getD s.store.stalled ∧
      t.store.failure = (Exchange.mk call reply).failure?.or s.store.failure := by
  cases hp <;> exact ⟨rfl, rfl⟩

theorem sent : t.store.sent = s.store.sent := by
  cases hp <;> rfl

theorem ended : t.ended = s.ended := by
  cases hp <;> rfl

theorem of_refused {point : FailurePoint} (hr : reply = .refused point) : t = s := by
  cases hp <;> first | rfl | cases hr

/-- A call changes the batch that it is about at most. -/
theorem others {batch : Nat} (hcall : call.batch? ≠ some batch) (hreply : reply ≠ .opened batch) :
    t.batch? batch = s.batch? batch := by
  cases hp with
  | opened hf =>
    rw [batch?_snoc rfl, if_neg]
    rintro rfl
    exact hreply rfl
  | appended hb | dropped hb | sending hb =>
    refine (batch?_set (batch_lt hb) rfl batch).trans (if_neg ?_)
    rintro rfl
    exact hcall rfl
  | _ => rfl

theorem unsent {batch : Nat} (hcall : call.batch? = some batch) (hne : call ≠ .send batch) :
    t.store = s.store ∧ t.pending = s.pending := by
  cases hp with
  | sending hb =>
    cases hcall
    exact absurd rfl hne
  | notAppended | appended | counted | dropped => exact ⟨rfl, rfl⟩
  | _ => cases hcall

end Performed

theorem Settled.of_eq (h : s.Settled) (hstore : t.store = s.store)
    (hpending : t.pending = s.pending) : t.Settled := by
  have houtcome : t.outcome? = s.outcome? := by
    funext sent task
    cases task <;> simp only [outcome?, hstore]
  rw [Settled, houtcome, hstore, hpending]
  exact h

/-- The settings are what was told last, the batches and the tasks are those that were said. -/
structure Recorded (said : List (Exchange α)) (s : Session α) : Prop where
  filed : Filed said s
  delivered : Delivered said s
  stalled : s.store.stalled = stalledIn said
  failure : s.store.failure = failureIn said

theorem recorded_new : Recorded [] (new : Session α) where
  filed := ⟨rfl, rfl, fun _ _ hb => by simp [batch?, new] at hb, fun _ _ => rfl, .refl _⟩
  delivered := ⟨nofun, nofun, nofun, nofun, rfl, .refl _⟩
  stalled := rfl
  failure := rfl

theorem Recorded.performed (h : Recorded said s) (hp : s.Performed call reply t) :
    Recorded (said ++ [⟨call, reply⟩]) t where
  filed := h.filed.performed hp
  delivered := h.delivered.performed h.filed hp
  stalled := by rw [stalledIn_snoc, ← h.stalled, hp.settings.1]
  failure := by rw [failureIn_snoc, ← h.failure, hp.settings.2]

theorem Recorded.settle (h : Recorded said s) : Recorded said s.settle where
  filed := h.filed.of_eq rfl (by rw [store_settle])
  delivered := h.delivered.settle
  stalled := by rw [store_settle]; exact h.stalled
  failure := by rw [store_settle]; exact h.failure

theorem Dialogue.recorded (h : Dialogue said s) : Recorded said s := by
  induction h with
  | new => exact recorded_new
  | snoc h hp ih => exact (ih.performed hp).settle

end Session

/-- The store has each batch whose send succeeded, in the order in which the sends ended, with the
rows that it took. Each batch that was opened is in just one place. -/
structure BatchLog (said : List (Exchange α)) (s : Session α) : Prop where
  sent : s.store.sent = (batchesOf said Outcome.isSent s.ended).map (rowsOf said)
  rows : s.store.rows = (s.store.sent.map List.length).sum
  opened : openedIn said = List.range s.store.opened
  batch : ∀ batch ∈ s.openBatches, s.batch? batch = some (rowsOf said batch)
  places : (s.openBatches ++ (droppedIn said ++ (sendsIn said).map Prod.snd)).Perm (openedIn said)
  sends : (batchesOf said Task.isSend s.pending ++
    (batchesOf said Outcome.isSent s.ended ++ batchesOf said Outcome.isRefused s.ended)).Perm
      ((sendsIn said).map Prod.snd)
  traceless : ∀ batch ∈ droppedIn said ++ batchesOf said Outcome.isRefused s.ended,
    batch ∉ batchesOf said Outcome.isSent s.ended
  waiting : ∀ task ∈ s.pending, task.2.isSend → stalledIn said = true

/-- What a call is answered and does after what was said. -/
structure Answered (said : List (Exchange α)) (s : Session α) (call : Call α) (reply : Reply α)
    (t : Session α) : Prop where
  kept : s.store.sent <+: t.store.sent
  others : ∀ batch, call.batch? ≠ some batch → reply ≠ .opened batch →
    t.batch? batch = s.batch? batch
  refused : ∀ point, reply = .refused point → t = s
  openBatch : call = .openBatch →
    reply = if failureIn said = some .opening then .refused .opening else .opened s.store.opened
  append : ∀ batch row, call = .append batch row →
    reply = if failureIn said = some .appending then .refused .appending else .done
  rows : ∀ batch, call = .rows batch → reply = .count (rowsOf said batch).length
  batches : call = .batches → reply = .batches s.store.sent
  /-- Only a send of a batch brings it to the store. -/
  unsent : ∀ batch, call.batch? = some batch → call ≠ .send batch →
    t.store = s.store ∧ t.pending = s.pending ∧ t.ended = s.ended
  /-- What ends does so as the store was told last, this call included. -/
  ended : ∃ more, t.ended = s.ended ++ more ∧ ∀ task ∈ more,
    (task.2.isSent → stalledIn (said ++ [⟨call, reply⟩]) = false ∧
      failureIn (said ++ [⟨call, reply⟩]) ≠ some .sending) ∧
    (task.2.isRefused → stalledIn (said ++ [⟨call, reply⟩]) = false ∧
      failureIn (said ++ [⟨call, reply⟩]) = some .sending)

theorem Session.Dialogue.batchLog (h : Session.Dialogue said s) : BatchLog said s where
  sent := h.recorded.delivered.sent
  rows := List.length_flatten
  opened := h.recorded.filed.opened
  batch := by
    intro batch hmem
    obtain ⟨rows, hb⟩ := Session.mem_openBatches.mp hmem
    rw [h.recorded.filed.rows batch rows hb, hb]
  places := h.recorded.filed.opened ▸ h.recorded.filed.places
  sends := h.recorded.delivered.sends
  traceless := h.recorded.delivered.traceless h.recorded.filed
  waiting := by
    rintro ⟨id, task⟩ hmem hsend
    have hnone := h.settled _ hmem
    cases task with
    | wait count => cases hsend
    | send rows =>
      rw [← h.recorded.stalled]
      cases hstalled : s.store.stalled with
      | true => rfl
      | false =>
        cases hfails : s.store.fails .sending <;>
          simp [Session.outcome?, hstalled, hfails] at hnone

/-- A send ends as the store was told. -/
theorem Session.outcome?_eq_some {sent : List (List α)} {task : Task α} {outcome : Outcome α}
    (h : s.outcome? sent task = some outcome) :
    (outcome.isSent → s.store.stalled = false ∧ s.store.failure ≠ some .sending) ∧
    (outcome.isRefused → s.store.stalled = false ∧ s.store.failure = some .sending) := by
  cases task with
  | wait count =>
    rw [outcome?, Option.ite_none_right_eq_some, Option.some.injEq] at h
    rw [← h.2]
    constructor <;> intro hkind <;> cases hkind
  | send rows =>
    rw [outcome?_send] at h
    cases hstalled : s.store.stalled <;> cases hfails : s.store.fails .sending <;>
      simp [sendOutcome?, hstalled, hfails] at h
    · subst h
      exact ⟨fun _ => ⟨rfl, of_decide_eq_false hfails⟩, fun hkind => (by cases hkind)⟩
    · subst h
      exact ⟨fun hkind => (by cases hkind), fun _ => ⟨rfl, of_decide_eq_true hfails⟩⟩

theorem Session.Performed.answered (h : Session.Dialogue said s) (hp : s.Performed call reply t) :
    Answered said s call reply t.settle where
  kept := by
    rw [Session.sent_settle, hp.sent]
    exact List.prefix_append _ _
  others := fun batch hcall hreply => hp.others hcall hreply
  refused := by
    intro point hr
    rw [hp.of_refused hr, h.settled.settle]
  openBatch := by
    rintro rfl
    cases hp with
    | notOpened hf => simpa [Memory.fails, h.recorded.failure] using hf
    | opened hf =>
      rw [h.recorded.filed.slots]
      simpa [Memory.fails, h.recorded.failure] using hf
  append := by
    rintro batch row rfl
    cases hp with
    | notAppended hb hf => simpa [Memory.fails, h.recorded.failure] using hf
    | appended hb hf => simpa [Memory.fails, h.recorded.failure] using hf
  rows := by
    rintro batch rfl
    cases hp with
    | counted hb => rw [h.recorded.filed.rows _ _ hb]
  batches := by
    rintro rfl
    cases hp
    rfl
  unsent := by
    intro batch hcall hne
    obtain ⟨hstore, hpending⟩ := hp.unsent hcall hne
    rw [(h.settled.of_eq hstore hpending).settle]
    exact ⟨hstore, hpending, hp.ended⟩
  ended := by
    have hnext := h.recorded.performed hp
    rw [← hnext.stalled, ← hnext.failure, Session.ended_settle, hp.ended]
    refine ⟨_, rfl, fun ended hmem => ?_⟩
    obtain ⟨task, -, houtcome⟩ := List.mem_filterMap.mp hmem
    obtain ⟨outcome, hfound, rfl⟩ := Option.map_eq_some_iff.mp houtcome
    exact Session.outcome?_eq_some hfound

/-- The log of batches is atomic, whatever calls are made. -/
theorem talk?_batchLog {calls : List (Call α)}
    (h : Session.new.talk? calls = some (said, s)) :
    said.map Exchange.call = calls ∧ BatchLog said s ∧ ∀ call,
      ((s.call? call).isSome ↔ ∀ batch, call.batch? = some batch → batch ∈ s.openBatches) ∧
      ∀ reply t, s.call? call = some (t, reply) → Answered said s call reply t := by
  have hd : Session.Dialogue said s := Session.Dialogue.talk? .new h
  refine ⟨Session.calls_of_talk? h, hd.batchLog, fun call => ⟨?_, ?_⟩⟩
  · rw [Session.call?, Option.isSome_map]
    simp only [Session.mem_openBatches]
    constructor
    · intro hsome batch hcall
      obtain ⟨⟨t, reply⟩, hp⟩ := Option.isSome_iff_exists.mp hsome
      exact (Session.perform?_eq_some_iff.mp hp).isOpen hcall
    · intro hopen
      obtain ⟨reply, t, hp⟩ := s.exists_performed call hopen
      rw [Session.perform?_of_performed hp]
      rfl
  · intro reply t hcall
    obtain ⟨u, hp, rfl⟩ := Session.call?_eq_some_iff.mp hcall
    exact hp.answered hd

/-- One send fails while the store stalls, another succeeds after it, and a batch is dropped. -/
theorem talk?_batchLog_interleaved :
    let calls : List (Call Nat) := [.openBatch, .openBatch, .openBatch, .append 0 1, .append 1 2,
      .failOn .appending, .append 0 3, .failOn .opening, .openBatch, .append 0 4, .drop 2, .stall,
      .send 0, .failOn .sending, .resume, .failOn .opening, .append 1 5, .send 1]
    ∃ said s, Session.new.talk? calls = some (said, s) ∧ s.store.sent = [[2, 5]] ∧
      BatchLog said s ∧ rowsOf said 0 = [1, 4] ∧ s.store.opened = 3 := by
  intro calls
  have heval : (Session.new.talk? calls).map
      (fun p => (p.2.store.sent, rowsOf p.1 0, p.2.store.opened)) =
        some ([[2, 5]], [1, 4], 3) := by rfl
  obtain ⟨⟨said, s⟩, htalk, heq⟩ := Option.map_eq_some_iff.mp heval
  simp only [Prod.mk.injEq] at heq
  exact ⟨said, s, htalk, heq.1, (talk?_batchLog htalk).2.1, heq.2⟩

end

end Pageviews.Store
