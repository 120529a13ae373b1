/-!
The store that keeps batches in memory. It can be told to fail at a point of a batch's life, to
stall what is being sent, and to be slow.
-/
namespace Pageviews.Store

/-- The points of a batch's life at which the store can be told to fail. -/
inductive FailurePoint where
  | opening
  | appending
  | sending
  deriving DecidableEq

def FailurePoint.message (point : FailurePoint) : String :=
  "analytics store unavailable: injected " ++
    (match point with
      | opening => "Open"
      | appending => "Append"
      | sending => "Send") ++ " failure"

/-- The store: what it was told, how many batches were opened, and the batches sent, in order. -/
structure Memory (α : Type) where
  stalled : Bool
  /-- How long an append takes. -/
  delay : Nat
  failure : Option FailurePoint
  opened : Nat
  sent : List (List α)

namespace Memory

variable {α : Type}

def empty : Memory α := ⟨false, 0, none, 0, []⟩

def fails (m : Memory α) (point : FailurePoint) : Bool := m.failure = some point

def countOpened (m : Memory α) : Memory α := { m with opened := m.opened + 1 }

def keep (m : Memory α) (rows : List α) : Memory α := { m with sent := m.sent ++ [rows] }

def rows (m : Memory α) : Nat := m.sent.flatten.length

end Memory
end Pageviews.Store
