import Pageviews.Warehouse.Query

/-! The warehouse at the other end of the network, and how a query to it can fail. -/
namespace Pageviews.Warehouse

inductive Fault where
  | unreachable
  | refused (answer : String)
  deriving DecidableEq

namespace Fault

def chain : Fault → List String
  | unreachable =>
    ["network error: client error (Connect)", "client error (Connect)", "tcp connect error",
      "Network is unreachable (os error 101)"]
  | refused answer => ["bad response: " ++ answer]

def message (f : Fault) : String := f.chain.headD ""

end Fault

structure Endpoint where
  reachable : Bool
  /-- The number of pings that it will still refuse because it is not ready. -/
  pingsRefused : Nat
  /-- The verbs of queries that it refuses, each with what it says to them. -/
  refusals : List (String × String)

namespace Endpoint

def unreachable : Endpoint := ⟨false, 0, []⟩

/-- The answer to a query that arrives: nothing, or why it was refused. -/
def receive (e : Endpoint) (q : Query) : Endpoint × Option Fault :=
  if q.verb = "SELECT" ∧ 0 < e.pingsRefused then
    ({ e with pingsRefused := e.pingsRefused - 1 }, some (.refused "not ready"))
  else (e, (e.refusals.lookup q.verb).map .refused)

end Endpoint
end Pageviews.Warehouse
