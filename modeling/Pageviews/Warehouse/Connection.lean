import Pageviews.Log
import Pageviews.Warehouse.Endpoint

/-!
The connection to the warehouse. It is made by asking until the warehouse is ready, with a pause that
grows by a second each time, and giving up after five attempts; a batch of rows is one query.
-/
namespace Pageviews.Warehouse

/-- A connection: the time in milliseconds, what was sent when, and what was logged. -/
structure Connection where
  endpoint : Endpoint
  now : Nat
  sent : List (Nat × Query)
  records : List Log.Record

inductive InitError where
  | unreachable (cause : Fault)
  | tableNotCreated (cause : Fault)
  deriving DecidableEq

def attempts : Nat := 5

def InitError.chain : InitError → List String
  | unreachable cause =>
    ("ClickHouse unreachable after " ++ toString attempts ++ " attempts") :: cause.chain
  | tableNotCreated cause => ("failed to create " ++ table ++ " table") :: cause.chain

def InitError.message (e : InitError) : String := e.chain.headD ""

namespace Connection

def new (endpoint : Endpoint) : Connection := ⟨endpoint, 0, [], []⟩

def send (c : Connection) (q : Query) : Connection × Option Fault :=
  if c.endpoint.reachable then
    let (endpoint, fault?) := c.endpoint.receive q
    ({ c with endpoint, sent := c.sent ++ [(c.now, q)] }, fault?)
  else (c, some .unreachable)

/-- Log that an attempt failed, and let as many seconds pass as attempts have been made. -/
def backOff (c : Connection) (attempt : Nat) (fault : Fault) : Connection :=
  { c with
    now := c.now + 1000 * attempt
    records := c.records ++ [⟨.warn, "ClickHouse not ready, retrying",
      [("attempt", .number attempt), ("error", .text fault.message)]⟩] }

/-- Ask whether the warehouse is ready, and again `retries` times. -/
def awaitReady (c : Connection) : Nat → Connection × Option Fault
  | 0 => c.send .ping
  | retries + 1 => match c.send .ping with
    | (c, none) => (c, none)
    | (c, some fault) => (c.backOff (attempts - 1 - retries) fault).awaitReady retries

def init (c : Connection) : Connection × Except InitError Unit :=
  match c.awaitReady (attempts - 1) with
  | (c, some fault) => (c, .error (.unreachable fault))
  | (c, none) => match c.send .createTable with
    | (c, some fault) => (c, .error (.tableNotCreated fault))
    | (c, none) =>
      ({ c with
        records := c.records ++ [⟨.info, "ClickHouse schema ready", [("table", .text table)]⟩] },
        .ok ())

/-- Send a batch of rows; one without rows needs no query. -/
def sendBatch (c : Connection) (rows : List Row) : Connection × Option Fault :=
  if rows.isEmpty then (c, none) else c.send (.insert rows)

end Connection
end Pageviews.Warehouse
