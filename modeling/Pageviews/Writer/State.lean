import Pageviews.Log
import Pageviews.Store.Memory
import Pageviews.Writer.Policy

/-!
The batching writer. Producers put rows into a bounded queue; one loop takes them out, gathers them
in a batch and sends it to the store when it is full or old enough.
-/
namespace Pageviews.Writer

open Store (FailurePoint Memory)

/-- A batch that has not been sent. -/
structure Batch (α : Type) where
  rows : List α
  openedAt : Nat

/-- Why a batch is sent. -/
inductive Trigger where
  | size
  | age
  | shutdown
  deriving DecidableEq

/-- The failure of the store that ends the loop. -/
inductive Failure where
  | opening
  | appending
  | sending (rows : Nat)
  deriving DecidableEq

namespace Failure

def point : Failure → FailurePoint
  | opening => .opening
  | appending => .appending
  | sending _ => .sending

def source (f : Failure) : String := f.point.message

def message (f : Failure) : String :=
  (match f with
    | opening => "failed to open pageview batch"
    | appending => "failed to append pageview to batch"
    | sending rows => "failed to send batch of " ++ toString rows ++ " pageviews") ++
    ": " ++ f.source

end Failure

/-- What the loop does when a batch has been sent. -/
inductive Next (α : Type) where
  | wait
  | append (row : α)
  | stop

/-- What the loop is at. -/
inductive Phase (α : Type) where
  /-- It waits for a signal, the age of the open batch, or a row. -/
  | idle (batch : Option (Batch α))
  /-- The store takes a row until a time. -/
  | appending (row : α) (batch : Batch α) (until_ : Nat)
  /-- The store takes a batch, which had an age when this began. -/
  | sending (batch : Batch α) (trigger : Trigger) (age : Nat) (next : Next α)
  /-- It has ended, with a failure or without. -/
  | ended (failure : Option Failure)

inductive Notice where
  | configured (policy : Policy)
  | draining
  | batchSent (rows : Nat) (trigger : Trigger) (age : Nat)
  | stopped (batches rows : Nat)
  | failed (failure : Failure) (batches rows : Nat)
  deriving DecidableEq

/-- A caller that stores rows one after the other, and stops at the first that is refused. -/
structure Producer (α : Type) where
  id : Nat
  rows : List α
  stored : Nat
  /-- Whether a free slot of the queue is kept for its next row. -/
  holdsSlot : Bool

/-- How a producer ended: `complete` unless the writer was closed to one of its rows. -/
structure Ended where
  id : Nat
  stored : Nat
  complete : Bool
  deriving DecidableEq

def closedMessage : String := "pageview writer is closed"

/-- A row that was let into the queue. -/
structure Admission (α : Type) where
  time : Nat
  producer : Nat
  row : α

structure State (α : Type) where
  policy : Policy
  now : Nat
  store : Memory α
  queue : List α
  phase : Phase α
  /-- Whether the loop has closed the queue to write what is in it. -/
  draining : Bool
  /-- Whether a shutdown was asked for. -/
  signalled : Bool
  /-- Whether the caller of all steps still holds the writer. -/
  held : Bool
  /-- Producers that can go on, in the order in which they will. -/
  ready : List (Producer α)
  /-- Producers that wait for a slot, the longest waiting first. -/
  waiting : List (Producer α)
  /-- The number of producers so far. -/
  spawned : Nat
  accepted : List (Admission α)
  ended : List Ended
  notices : List Notice
  batchesSent : Nat
  rowsSent : Nat

namespace State

variable {α : Type}

/-- A writer that has just been made; none can be made with more slots than a queue may have. -/
def spawn? (policy : Policy) : Option (State α) :=
  if policy.slots ≤ Policy.maxSlots then
    some
      { policy, now := 0, store := .empty, queue := [], phase := .idle none
        draining := false, signalled := false, held := true, ready := [], waiting := []
        spawned := 0, accepted := [], ended := [], notices := [.configured policy]
        batchesSent := 0, rowsSent := 0 }
  else none

def hasEnded (s : State α) : Bool :=
  match s.phase with
  | .ended _ => true
  | _ => false

/-- Whether the queue takes no more rows. -/
def isClosed (s : State α) : Bool := s.draining || s.hasEnded

/-- Whether nobody is left who could store a row. -/
def isAbandoned (s : State α) : Bool := !s.held && s.ready.isEmpty && s.waiting.isEmpty

def isExpired (s : State α) (batch : Batch α) : Bool :=
  batch.openedAt + s.policy.batchAge ≤ s.now

/-- The slots of the queue that are free and not kept for a producer. -/
def hasFreeSlot (s : State α) : Bool :=
  s.queue.length + (s.ready.filter (·.holdsSlot)).length < s.policy.slots

end State
end Pageviews.Writer
