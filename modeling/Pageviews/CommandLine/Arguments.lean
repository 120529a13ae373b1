import Pageviews.Text.Search

/-!
The arguments of the command. Options may stand anywhere, short ones together behind one dash; behind
two dashes alone there are only user agents.
-/
namespace Pageviews.CommandLine

structure Arguments where
  agents : List String
  /-- The file with more user agents. -/
  file : Option String
  /-- Whether the output has lines and indentation. -/
  pretty : Bool
  deriving DecidableEq

inductive UsageError where
  | fileMissing
  | unknownOption (option : String)
  | valueNotExpected (value option : String)
  | repeated (option : String)
  deriving DecidableEq

def fileOption : String := "--file <FILE>"

def UsageError.message : UsageError → String
  | fileMissing => "a value is required for '" ++ fileOption ++ "' but none was supplied"
  | unknownOption option => "unexpected argument '" ++ option ++ "' found"
  | valueNotExpected value option =>
    "unexpected value '" ++ value ++ "' for '" ++ option ++ "' found; no more were expected"
  | repeated option => "the argument '" ++ option ++ "' cannot be used multiple times"

/-- Why reading arguments ends early: help was asked for, or they are wrong. -/
inductive Stop where
  | help
  | wrong (cause : UsageError)
  deriving DecidableEq

/-- Whether a file option has been read whose value has not been looked at. -/
inductive Pending where
  | nothing
  /-- The next argument is the file. -/
  | file
  | fileNamed (name : String)
  deriving DecidableEq

structure Reader where
  arguments : Arguments
  pending : Pending

namespace Reader

def start : Reader := ⟨⟨[], none, false⟩, .nothing⟩

def setFile (r : Reader) (name : String) : Except Stop Reader :=
  if r.arguments.file.isSome then .error (.wrong (.repeated fileOption))
  else if name = "" then .error (.wrong .fileMissing)
  else .ok ⟨{ r.arguments with file := some name }, .nothing⟩

/-- Look at the value of a file option before anything else is taken. -/
def resolve (r : Reader) : Except Stop Reader :=
  match r.pending with
  | .nothing => .ok r
  | .file => .error (.wrong .fileMissing)
  | .fileNamed name => r.setFile name

def addAgent (r : Reader) (agent : String) : Except Stop Reader := do
  let r ← r.resolve
  return { r with arguments := { r.arguments with agents := r.arguments.agents ++ [agent] } }

def setPretty (r : Reader) : Except Stop Reader := do
  let r ← r.resolve
  if r.arguments.pretty then .error (.wrong (.repeated "--pretty"))
  else return { r with arguments := { r.arguments with pretty := true } }

/-- Take a file option with its value, or wait for that. -/
def openFile (r : Reader) (value? : Option String) : Except Stop Reader := do
  let r ← r.resolve
  match value? with
  | none => return { r with pending := .file }
  | some name => r.setFile name

def askHelp (r : Reader) : Except Stop Reader := do
  let _ ← r.resolve
  .error .help

/-- Take an option by its whole name, with what stands behind an equals sign. -/
def takeLong (r : Reader) (name : String) (value? : Option String) : Except Stop Reader :=
  match name, value? with
  | "file", _ => r.openFile value?
  | "pretty", none => r.setPretty
  | "help", none => r.askHelp
  | "pretty", some value => .error (.wrong (.valueNotExpected value "--pretty"))
  | "help", some value => .error (.wrong (.valueNotExpected value "--help"))
  | _, _ => .error (.wrong (.unknownOption ("--" ++ name)))

/-- Take options by their letters; all behind the letter of the file option is its value. -/
def takeShort (r : Reader) : List Char → Except Stop Reader
  | [] => .ok r
  | 'p' :: rest => do (← r.setPretty).takeShort rest
  | 'f' :: rest => r.openFile (match rest with
    | [] => none
    | '=' :: value => some (String.ofList value)
    | value => some (String.ofList value))
  | 'h' :: _ => r.askHelp
  | c :: _ => .error (.wrong (.unknownOption (String.ofList ['-', c])))

/-- Take an argument that is no option: the file of the option before it, or a user agent. -/
def takeValue (r : Reader) (value : String) : Except Stop Reader :=
  match r.pending with
  | .file => .ok { r with pending := .fileNamed value }
  | _ => r.addAgent value

def takeArgument (r : Reader) (argument : String) : Except Stop Reader :=
  match argument.toList with
  | '-' :: '-' :: option =>
    match Text.cut? ['='] option with
    | some (name, value) => r.takeLong (String.ofList name) (some (String.ofList value))
    | none => r.takeLong (String.ofList option) none
  | '-' :: c :: letters => r.takeShort (c :: letters)
  | _ => r.takeValue argument

def takeAll (r : Reader) : List String → Except Stop Reader
  | [] => .ok r
  | "--" :: agents => agents.foldlM addAgent r
  | argument :: rest => do (← r.takeArgument argument).takeAll rest

end Reader

/-- Read the arguments; the first that is wrong is the error. -/
def Arguments.parse (arguments : List String) : Except Stop Arguments := do
  return (← (← Reader.start.takeAll arguments).resolve).arguments

end Pageviews.CommandLine
