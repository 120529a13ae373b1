import Pageviews.Writer.Clock

/-! What can be done to a writer from outside. After every step it comes to rest. -/
namespace Pageviews.Writer

inductive Step (α : Type) where
  /-- Start a producer that stores these rows. -/
  | store (rows : List α)
  | advance (time : Nat)
  /-- Let no batch through the store. -/
  | stall
  | resume
  /-- Let every later append take a time. -/
  | slowAppends (time : Nat)
  | failOn (point : Store.FailurePoint)
  /-- Ask the loop to write what is queued and end. -/
  | shutdown
  /-- Give the writer up; producers that have not ended keep it. -/
  | drop
  | look

/-- Whether a step needs the writer that `drop` gives up. -/
def Step.needsWriter {α : Type} : Step α → Bool
  | store _ | shutdown | drop => true
  | _ => false

namespace State

variable {α : Type}

def spawnProducer (s : State α) (rows : List α) : State α :=
  { s with ready := s.ready ++ [⟨s.spawned, rows, 0, false⟩], spawned := s.spawned + 1 }

def perform (s : State α) : Step α → State α
  | .store rows => s.spawnProducer rows
  | .advance time => s.advanceTo (s.now + time)
  | .stall => { s with store := { s.store with stalled := true } }
  | .resume => { s with store := { s.store with stalled := false } }
  | .slowAppends time => { s with store := { s.store with delay := time } }
  | .failOn point => { s with store := { s.store with failure := some point } }
  | .shutdown => { s with signalled := true }
  | .drop => { s with held := false }
  | .look => s

/-- Take a step and come to rest. -/
def take (s : State α) (step : Step α) : State α := (s.perform step).settle

/-- Take a step, unless it needs a writer that was given up. -/
def step? (s : State α) (step : Step α) : Option (State α) :=
  if step.needsWriter && !s.held then none else some (s.take step)

/-- Store one row, and tell how that ended if it need not wait. -/
def offer (s : State α) (row : α) : State α × Option Ended :=
  let t := s.take (.store [row])
  (t, t.ended.find? (·.id = s.spawned))

def run? (s : State α) : List (Step α) → Option (List (State α))
  | [] => some []
  | step :: steps => do
    let t ← s.step? step
    return t :: (← t.run? steps)

end State
end Pageviews.Writer
