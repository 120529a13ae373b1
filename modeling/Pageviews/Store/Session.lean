import Pageviews.Store.Memory

/-!
A session with a memory store. Calls are answered at once; what has to wait, a send to a stalled
store or a wait for batches, goes on as a task and ends when it can.
-/
namespace Pageviews.Store

inductive Task (α : Type) where
  | send (rows : List α)
  /-- Wait until the store has this many batches. -/
  | wait (count : Nat)

inductive Outcome (α : Type) where
  | sent
  | refused (point : FailurePoint)
  /-- The batches that the store had when a wait ended. -/
  | batches (sent : List (List α))
  deriving DecidableEq

/-- The calls; a batch is named by its place among those that the session has opened. -/
inductive Call (α : Type) where
  | init
  | openBatch
  | append (batch : Nat) (row : α)
  | rows (batch : Nat)
  | drop (batch : Nat)
  | send (batch : Nat)
  | wait (count : Nat)
  | batches
  | advance (time : Nat)
  | stall
  | resume
  | slowAppends (time : Nat)
  | failOn (point : FailurePoint)

inductive Reply (α : Type) where
  | done
  | refused (point : FailurePoint)
  | opened (batch : Nat)
  | count (rows : Nat)
  | started (task : Nat)
  | batches (sent : List (List α))

/-- The session: batches that are no longer open have left their places empty. -/
structure Session (α : Type) where
  now : Nat
  store : Memory α
  batches : List (Option (List α))
  /-- The number of tasks so far. -/
  started : Nat
  /-- The tasks that have not ended, by number. -/
  pending : List (Nat × Task α)
  /-- The tasks that have ended; those that ended together are in the order of their numbers. -/
  ended : List (Nat × Outcome α)

namespace Session

variable {α : Type}

def new : Session α := ⟨0, .empty, [], 0, [], []⟩

def batch? (s : Session α) (batch : Nat) : Option (List α) := (s.batches[batch]?).join

def start (s : Session α) (task : Task α) : Session α :=
  { s with started := s.started + 1, pending := s.pending ++ [(s.started, task)] }

/-- The batches that the store takes now. -/
def sendable (s : Session α) : List (List α) :=
  if s.store.stalled || s.store.fails .sending then []
  else s.pending.filterMap fun
    | (_, .send rows) => some rows
    | _ => none

/-- How a task ends, if it does, when the store has these batches. -/
def outcome? (s : Session α) (sent : List (List α)) : Task α → Option (Outcome α)
  | .send _ =>
    if s.store.stalled then none
    else if s.store.fails .sending then some (.refused .sending)
    else some .sent
  | .wait count => if count ≤ sent.length then some (.batches sent) else none

def settle (s : Session α) : Session α :=
  let store := s.sendable.foldl Memory.keep s.store
  let outcome? := s.outcome? store.sent
  { s with
    store
    pending := s.pending.filter fun (_, task) => (outcome? task).isNone
    ended := s.ended ++ s.pending.filterMap fun (id, task) => (outcome? task).map (id, ·) }

/-- What a call does by itself and its answer; a call on a batch that is not open has none. -/
def perform? (s : Session α) : Call α → Option (Session α × Reply α)
  | .init => some (s, .done)
  | .openBatch =>
    if s.store.fails .opening then some (s, .refused .opening)
    else
      some ({ s with store := s.store.countOpened, batches := s.batches ++ [some []] },
        .opened s.batches.length)
  | .append batch row => do
    let rows ← s.batch? batch
    if s.store.fails .appending then return (s, .refused .appending)
    return ({ s with
      now := s.now + s.store.delay, batches := s.batches.set batch (some (rows ++ [row])) }, .done)
  | .rows batch => return (s, .count (← s.batch? batch).length)
  | .drop batch => do
    let _ ← s.batch? batch
    return ({ s with batches := s.batches.set batch none }, .done)
  | .send batch => do
    let rows ← s.batch? batch
    return ({ s with batches := s.batches.set batch none }.start (.send rows), .started s.started)
  | .wait count => some (s.start (.wait count), .started s.started)
  | .batches => some (s, .batches s.store.sent)
  | .advance time => some ({ s with now := s.now + time }, .done)
  | .stall => some ({ s with store := { s.store with stalled := true } }, .done)
  | .resume => some ({ s with store := { s.store with stalled := false } }, .done)
  | .slowAppends time => some ({ s with store := { s.store with delay := time } }, .done)
  | .failOn point => some ({ s with store := { s.store with failure := some point } }, .done)

def call? (s : Session α) (call : Call α) : Option (Session α × Reply α) :=
  (s.perform? call).map fun (t, reply) => (t.settle, reply)

end Session
end Pageviews.Store
