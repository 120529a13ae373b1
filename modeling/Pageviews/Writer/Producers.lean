import Pageviews.Writer.State

/-! The producers, which go on while the loop waits. -/
namespace Pageviews.Writer

namespace State

variable {α : Type}

def retire (s : State α) (producer : Producer α) (others : List (Producer α)) (complete : Bool) :
    State α :=
  { s with ready := others, ended := s.ended ++ [⟨producer.id, producer.stored, complete⟩] }

def accept (s : State α) (producer : Producer α) (row : α) (rows : List α)
    (others : List (Producer α)) : State α :=
  { s with
    queue := s.queue ++ [row]
    accepted := s.accepted ++ [⟨s.now, producer.id, row⟩]
    ready := { producer with rows, stored := producer.stored + 1, holdsSlot := false } :: others }

def produce (s : State α) (producer : Producer α) (others : List (Producer α)) : State α :=
  match producer.rows with
  | [] => s.retire producer others true
  | row :: rows =>
    if s.isClosed then s.retire producer others false
    else if producer.holdsSlot || s.hasFreeSlot then s.accept producer row rows others
    else { s with ready := others, waiting := s.waiting ++ [producer] }

end State
end Pageviews.Writer
