import Pageviews.Writer.State

/-! The loop that takes rows out of the queue. Nothing else happens until it has to wait. -/
namespace Pageviews.Writer

namespace State

variable {α : Type}

/-- Wake all producers that wait: the queue has been closed. -/
def wakeAll (s : State α) : State α := { s with ready := s.ready ++ s.waiting, waiting := [] }

/-- End the loop. What is left in the queue or an open batch is lost. -/
def stop (s : State α) (failure : Option Failure) : State α :=
  { s.wakeAll with
    phase := .ended failure
    queue := []
    notices := s.notices ++ [match failure with
      | none => .stopped s.batchesSent s.rowsSent
      | some failure => .failed failure s.batchesSent s.rowsSent] }

/-- Close the queue; what is in it will still be written. -/
def beginDrain (s : State α) : State α :=
  { s.wakeAll with draining := true, notices := s.notices ++ [.draining] }

def startAppend (s : State α) (row : α) (batch : Batch α) : State α :=
  if s.store.fails .appending then s.stop (some .appending)
  else { s with phase := .appending row batch (s.now + s.store.delay) }

def openFor (s : State α) (row : α) : State α :=
  if s.store.fails .opening then s.stop (some .opening)
  else { s with store := s.store.countOpened }.startAppend row ⟨[], s.now⟩

def startSend (s : State α) (batch : Batch α) (trigger : Trigger) (next : Next α) : State α :=
  { s with phase := .sending batch trigger (s.now - batch.openedAt) next }

/-- Deal with a row out of the queue: an open batch that is too old for it is sent first. -/
def deliver (s : State α) (current : Option (Batch α)) (row : α) : State α :=
  match current with
  | none => s.openFor row
  | some batch =>
    if s.isExpired batch then s.startSend batch .age (.append row) else s.startAppend row batch

/-- The row is in the batch, which may be full or too old now. -/
def appended (s : State α) (row : α) (batch : Batch α) : State α :=
  let batch := { batch with rows := batch.rows ++ [row] }
  if s.policy.batchSize ≤ batch.rows.length then s.startSend batch .size .wait
  else if s.isExpired batch then s.startSend batch .age .wait
  else { s with phase := .idle (some batch) }

def kept (s : State α) (batch : Batch α) (trigger : Trigger) (age : Nat) : State α :=
  { s with
    store := s.store.keep batch.rows
    batchesSent := s.batchesSent + 1
    rowsSent := s.rowsSent + batch.rows.length
    notices := s.notices ++ [.batchSent batch.rows.length trigger age] }

/-- The store, no longer stalled, keeps a batch or fails. -/
def send (s : State α) (batch : Batch α) (trigger : Trigger) (age : Nat) (next : Next α) : State α :=
  if s.store.fails .sending then s.stop (some (.sending batch.rows.length))
  else match next with
    | .wait => { s.kept batch trigger age with phase := .idle none }
    | .append row => (s.kept batch trigger age).openFor row
    | .stop => (s.kept batch trigger age).stop none

/-- Keep the slot that a row has left for the producer that has waited longest. -/
def grantSlot (s : State α) : State α :=
  match s.waiting with
  | [] => s
  | producer :: others =>
    { s with ready := s.ready ++ [{ producer with holdsSlot := true }], waiting := others }

/-- The next move of an idle loop: a shutdown comes before a batch's age, and that before a row. -/
def idleMove (s : State α) (current : Option (Batch α)) : Option (State α) :=
  if s.draining then
    match s.queue with
    | row :: queue => some ({ s with queue }.deliver current row)
    | [] => match current with
      | some batch => some (s.startSend batch .shutdown .stop)
      | none => some (s.stop none)
  else if s.signalled || s.isAbandoned then some s.beginDrain
  else if current.any s.isExpired then current.map fun batch => s.startSend batch .age .wait
  else match s.queue with
    | row :: queue => some ({ s with queue }.grantSlot.deliver current row)
    | [] => none

/-- The next move of the loop; there is none when it has to wait. -/
def move (s : State α) : Option (State α) :=
  match s.phase with
  | .idle current => s.idleMove current
  | .appending row batch until_ => if until_ ≤ s.now then some (s.appended row batch) else none
  | .sending batch trigger age next =>
    if s.store.stalled then none else some (s.send batch trigger age next)
  | .ended _ => none

end State
end Pageviews.Writer
