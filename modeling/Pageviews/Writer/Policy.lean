/-! How the writer batches pageviews. -/
namespace Pageviews.Writer

/-- When a batch is sent, and how many pageviews may queue; times are in milliseconds. -/
structure Policy where
  capacity : Nat
  batchSize : Nat
  batchAge : Nat
  deriving DecidableEq

namespace Policy

def standard : Policy := ⟨1024, 1000, 3000⟩

/-- The pageviews that can queue; there is always room for one. -/
def slots (p : Policy) : Nat := max 1 p.capacity

/-- The rows of a full batch; a batch is never sent empty. -/
def fullSize (p : Policy) : Nat := max 1 p.batchSize

/-- The largest capacity a queue can be made with, one less than a power of two. -/
def maxSlots : Nat := 0x1FFFFFFFFFFFFFFF

end Policy
end Pageviews.Writer
