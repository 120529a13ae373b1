import Pageviews.Client.Family
import Pageviews.Client.Json
import Pageviews.CommandLine.Arguments
import Pageviews.Json.ListReader

/-! The command that tells the clients of user agents, given as arguments or in a file. -/
namespace Pageviews.CommandLine

structure Outcome where
  code : Nat
  output : String
  /-- What it says of an error, if there was one. -/
  complaint : String
  deriving DecidableEq

/-- Why the command fails when its arguments are understood. -/
inductive Failure where
  | unreadable (path : String)
  | malformed (path : String)
  | noAgents
  deriving DecidableEq

def Failure.message : Failure → String
  | unreadable path => "failed to read " ++ path
  | malformed path => path ++ " is not a JSON list of user agents"
  | noAgents => "no user agent given, pass them as arguments or with --file"

/-- The user agents of a file: a list of records with the member `ua`. -/
def agentsOfFile? (text : String) : Option (List String) :=
  match Json.readAll (Json.readList ["ua".toList]) text.toList with
  | .ok records => some (records.flatten.map String.ofList)
  | .error _ => none

/-- The user agents that arguments give; `fileText` knows the text of every file there is. -/
def agentsOf (fileText : String → Option String) (a : Arguments) : Except Failure (List String) := do
  let more ← match a.file with
    | none => .ok []
    | some path => match fileText path with
      | none => .error (.unreadable path)
      | some text => match agentsOfFile? text with
        | none => .error (.malformed path)
        | some agents => .ok agents
  let agents := a.agents ++ more
  if agents.isEmpty then .error .noAgents else return agents

def prettyClient (c : Client) : String :=
  let field := fun name value => "    " ++ Json.writeString name ++ ": " ++ Json.writeString value
  "  \x7b\n" ++ ",\n".intercalate [field "operating_system" c.operatingSystem,
    field "browser_family" c.browserFamily, field "device" c.device] ++ "\n  \x7d"

/-- A list of clients, which is not empty. -/
def writeClients (pretty : Bool) (clients : List Client) : String :=
  if pretty then "[\n" ++ ",\n".intercalate (clients.map prettyClient) ++ "\n]"
  else Json.writeArray (clients.map Client.toJson)

def help : String :=
  "Classify user agents the way the ingestion server does\n\n" ++
  "Usage: prisme-uaparser [OPTIONS] [USER_AGENTS]...\n\n" ++
  "Arguments:\n" ++
  "  [USER_AGENTS]...  User agent strings to classify\n\n" ++
  "Options:\n" ++
  "  -f, --file <FILE>  JSON list of \x60\x7b\"ua\": \"...\"\x7d\x60 objects, as exported by useragents.me\n" ++
  "  -p, --pretty       Pretty print the JSON output\n" ++
  "  -h, --help         Print help\n"

def classify (fileText : String → Option String) (arguments : List String) : Outcome :=
  match Arguments.parse arguments with
  | .error .help => ⟨0, help, ""⟩
  | .error (.wrong cause) => ⟨2, "", "error: " ++ cause.message⟩
  | .ok a => match agentsOf fileText a with
    | .error failure => ⟨1, "", "Error: " ++ failure.message⟩
    | .ok agents => ⟨0, writeClients a.pretty (agents.map Client.ofUserAgent) ++ "\n", ""⟩

end Pageviews.CommandLine
