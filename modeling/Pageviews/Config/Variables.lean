import Pageviews.Config.Basic
import Pageviews.Config.Number

/-! Reading the settings from variables, each of which a lookup function may know. -/
namespace Pageviews.Config

inductive ConfigError where
  | notSet (name : String)
  | emptyValue (name : String)
  | invalidNumber (name value : String) (cause : NumberError)
  | invalidSources (cause : InvalidDomain)
  | zeroSize
  deriving DecidableEq

namespace ConfigError

/-- The error and its cause, outermost first. -/
def chain : ConfigError → List String
  | notSet name => [name ++ " environment variable not set"]
  | emptyValue name => [name ++ " environment variable is an empty string"]
  | invalidNumber name value cause =>
    [name ++ " environment variable is not valid: " ++ Text.quoted value, cause.message]
  | invalidSources cause =>
    ["PRISME_SOURCE_REGISTRY_SOURCES must be a comma separated list of domains", cause.message]
  | zeroSize =>
    ["PRISME_EVENTSTORE_QUEUE_CAPACITY and PRISME_EVENTSTORE_MAX_BATCH_SIZE must be greater than zero"]

def message (e : ConfigError) : String := e.chain.headD ""

end ConfigError

/-- The values of variables; those that are not set have none. -/
abbrev Variables := String → Option String

namespace Variables

def getOr (vars : Variables) (name fallback : String) : String := (vars name).getD fallback

/-- A variable that has to be set, and not to the empty text. -/
def required (vars : Variables) (name : String) : Except ConfigError String :=
  match vars name with
  | none => .error (.notSet name)
  | some value => if value = "" then .error (.emptyValue name) else .ok value

/-- A variable that says yes, in any case. -/
def flag (vars : Variables) (name : String) : Bool :=
  match vars name with
  | none => false
  | some value =>
    ["true", "1", "yes"].any fun word => word.toList = value.toList.map Char.toLower

def numberOr (vars : Variables) (name : String) (limit fallback : Nat) : Except ConfigError Nat :=
  match vars name with
  | none => .ok fallback
  | some value => (parseNumber limit value).mapError (.invalidNumber name value)

end Variables

def portLimit : Nat := 0x10000

def sizeLimit : Nat := 0x10000000000000000

/-- Read the settings; the first variable in fault is the error. -/
def ofVariables (vars : Variables) : Except ConfigError Config := do
  let host := vars.getOr "PRISME_HOST" "0.0.0.0"
  let port ← vars.numberOr "PRISME_PORT" portLimit 80
  let debug := vars.flag "PRISME_DEBUG"
  let scheme := if vars.flag "PRISME_CLICKHOUSE_TLS" then "https" else "http"
  let hostPort ← vars.required "PRISME_CLICKHOUSE_HOSTPORT"
  let database := vars.getOr "PRISME_CLICKHOUSE_DB" "prisme"
  let user ← vars.required "PRISME_CLICKHOUSE_USER"
  let password ← vars.required "PRISME_CLICKHOUSE_PASSWORD"
  let rawSources ← vars.required "PRISME_SOURCE_REGISTRY_SOURCES"
  let sources ← (Registry.parseList rawSources).mapError .invalidSources
  let standard := Writer.Policy.standard
  let capacity ← vars.numberOr "PRISME_EVENTSTORE_QUEUE_CAPACITY" sizeLimit standard.capacity
  let batchSize ← vars.numberOr "PRISME_EVENTSTORE_MAX_BATCH_SIZE" sizeLimit standard.batchSize
  let batchAge ← vars.numberOr "PRISME_EVENTSTORE_MAX_BATCH_TIMEOUT_MS" sizeLimit standard.batchAge
  if capacity = 0 ∨ batchSize = 0 then .error .zeroSize
  else
    .ok ⟨⟨host, port, debug⟩, ⟨scheme ++ "://" ++ hostPort, database, user, password⟩,
      ⟨capacity, batchSize, batchAge⟩, sources⟩

end Pageviews.Config
