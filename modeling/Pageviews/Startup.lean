import Pageviews.Config.VariableFile
import Pageviews.Warehouse.Connection

/-! How the service starts: it reads its settings, then makes the connection to its warehouse. -/
namespace Pageviews

inductive StartError where
  | settings (cause : Config.ConfigError)
  | warehouse (cause : Warehouse.InitError)
  deriving DecidableEq

namespace StartError

def chain : StartError → List String
  | settings cause => cause.chain
  | warehouse cause => cause.chain

/-- The lines below an error that tell its causes, with a number each if there are several. -/
def causeLines : List String → List String
  | [] => []
  | [cause] => ["", "Caused by:", "    " ++ cause]
  | causes =>
    ["", "Caused by:"] ++ causes.zipIdx.map fun (cause, i) => "    " ++ toString i ++ ": " ++ cause

def report (e : StartError) : String :=
  match e.chain with
  | [] => ""
  | message :: causes => String.join ((("Error: " ++ message) :: causeLines causes).map (· ++ "\n"))

end StartError

/-- Start the service with variables, some of which may be set in a file. -/
def start (vars : Config.Variables) (file : Option String) (endpoint : Warehouse.Endpoint) :
    Except StartError (Config × Warehouse.Connection) :=
  let vars := match file with
    | none => vars
    | some text => Config.VariableFile.load vars text
  match Config.ofVariables vars with
  | .error cause => .error (.settings cause)
  | .ok config => match (Warehouse.Connection.new endpoint).init with
    | (_, .error cause) => .error (.warehouse cause)
    | (connection, .ok ()) => .ok (config, connection)

end Pageviews
