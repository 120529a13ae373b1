import Pageviews.Config.Variables
import Pageviews.Text.Blank
import Pageviews.Text.Search

/-!
Files that set variables, a line for each. Values may be quoted, and then go on over several lines;
they may name variables that are already set. A line that cannot be read ends the file.
-/
namespace Pageviews.Config.VariableFile

/-- What the characters of a line stand in. -/
inductive Quoting where
  | plain
  /-- Behind a blank, where a comment may begin. -/
  | blank
  | escape
  | single
  | singleEscape
  | double
  | doubleEscape
  deriving DecidableEq

def Quoting.enter (c : Char) : Quoting :=
  if c = '\\' then escape else if c = '"' then double else if c = '\'' then single else plain

/-- What follows a character; nothing if it begins a comment. -/
def Quoting.next? (q : Quoting) (c : Char) : Option Quoting :=
  match q with
  | plain => some (if Text.isBlank c && c ≠ '\n' && c ≠ '\r' then blank else enter c)
  | blank => if c = '#' then none else some (enter c)
  | escape => some plain
  | single => some (if c = '\\' then singleEscape else if c = '\'' then plain else single)
  | singleEscape => some single
  | double => some (if c = '\\' then doubleEscape else if c = '"' then plain else double)
  | doubleEscape => some double

/-- The text before a comment, and what it ends in; that is nothing if there is a comment. -/
def uncommented (q : Quoting) : List Char → List Char × Option Quoting
  | [] => ([], some q)
  | c :: rest => match q.next? c with
    | none => ([], none)
    | some q =>
      let (text, last?) := uncommented q rest
      (c :: text, last?)

/-- The lines of a text, each with its line feed. -/
def rawLines : List Char → List (List Char)
  | [] => []
  | c :: rest =>
    if c = '\n' then [c] :: rawLines rest
    else match rawLines rest with
      | [] => [[c]]
      | line :: lines => (c :: line) :: lines

/-- The settings that lines make up; `none` if they end inside one. -/
def join (before : List Char) (q : Quoting) : List (List Char) → List (Option (List Char))
  | [] => if q = .plain then [] else [none]
  | line :: lines =>
    let text := before ++ line
    if (text.dropWhile Text.isBlank).head? = some '#' then some [] :: join [] .plain lines
    else match uncommented q line with
      | (kept, none) => some (before ++ kept) :: join [] .plain lines
      | (_, some .plain) => some text :: join [] .plain lines
      | (_, some q) => join text q lines

/-- What the characters of a value stand in, besides double quotes. -/
inductive Place where
  | text
  | escape
  | single
  /-- In the name of a variable. -/
  | name (read : List Char)
  /-- In the name of a variable in braces. -/
  | braced (read : List Char)
  /-- Behind the value. -/
  | after
  | comment
  deriving DecidableEq

structure Value where
  text : List Char
  quoted : Bool
  place : Place

namespace Value

def add (v : Value) (c : Char) : Value := { v with text := v.text ++ [c], place := .text }

/-- Put the value of a variable in; one that is not set has none. -/
def addVariable (v : Value) (vars : Variables) (name : List Char) : Value :=
  { v with text := v.text ++ ((vars (String.ofList name)).getD "").toList, place := .text }

def endName (v : Value) (vars : Variables) (name : List Char) (c : Char) : Value :=
  if c = '\x7b' && name.isEmpty then { v with place := .braced [] }
  else
    let v := v.addVariable vars name
    if c = '$' then { v with place := .name [] } else v.add c

def take (v : Value) (c : Char) : Value :=
  if c = '$' then { v with place := .name [] }
  else if c = '\\' then { v with place := .escape }
  else if c = '"' then { v with quoted := !v.quoted }
  else if v.quoted then v.add c
  else if c = '\'' then { v with place := .single }
  else if c = ' ' || c = '\t' then { v with place := .after }
  else v.add c

/-- The next character; it may be one that cannot stand there. -/
def next? (v : Value) (vars : Variables) (c : Char) : Option Value :=
  match v.place with
  | .comment => some v
  | .after =>
    if c = ' ' || c = '\t' then some v
    else if c = '#' then some { v with place := .comment }
    else none
  | .escape =>
    if "\\'\"$ ".toList.contains c then some (v.add c)
    else if c = 'n' then some (v.add '\n')
    else none
  | .single =>
    some (if c = '\'' then { v with place := .text } else { v.add c with place := .single })
  | .name read =>
    some (if c.isAlphanum then { v with place := .name (read ++ [c]) } else v.endName vars read c)
  | .braced read =>
    some (if c = '\x7d' then v.addVariable vars read else { v with place := .braced (read ++ [c]) })
  | .text => some (v.take c)

/-- The text of a value that has been read; its quotes and braces must be closed. -/
def finish? (v : Value) (vars : Variables) : Option String :=
  match v.place with
  | .single | .braced _ => none
  | .name read => if v.quoted then none else some (String.ofList (v.addVariable vars read).text)
  | _ => if v.quoted then none else some (String.ofList v.text)

end Value

def readValue? (vars : Variables) (text : List Char) : Option String := do
  let value ← text.foldlM (fun (v : Value) c => v.next? vars c) ⟨[], false, .text⟩
  value.finish? vars

/-- The name at the start of a text, and the text behind it and blanks. -/
def readName? (text : List Char) : Option (List Char × List Char) :=
  match text with
  | [] => none
  | c :: _ =>
    if c.isAlpha || c = '_' then
      let inName := fun (c : Char) => c.isAlphanum || c = '_' || c = '.'
      some (text.takeWhile inName, (text.dropWhile inName).dropWhile Text.isBlank)
    else none

def behindEquals? : List Char → Option (List Char)
  | '=' :: rest => some (rest.dropWhile Text.isBlank)
  | _ => none

/-- The name and the written value of a setting, which may be marked as exported. -/
def readParts? (text : List Char) : Option (List Char × List Char) := do
  let (name, rest) ← readName? text
  match behindEquals? rest with
  | some value => return (name, value)
  | none =>
    if name = "export".toList then
      let (name, rest) ← readName? rest
      return (name, ← behindEquals? rest)
    else none

/-- Read a setting: `some none` if there is nothing on its line, and `none` if it is wrong. -/
def readSetting? (vars : Variables) (line : List Char) : Option (Option (String × String)) := do
  let text := Text.trim line
  if text.isEmpty || text.head? = some '#' then return none
  let (name, value) ← readParts? text
  if value.isEmpty || value.head? = some '#' then return some (String.ofList name, "")
  return some (String.ofList name, ← readValue? vars value)

/-- Set a variable, unless it is set. -/
def set (vars : Variables) (name value : String) : Variables :=
  fun other => (vars other).or (if other = name then some value else none)

/-- Set the variables of settings, up to the first that is wrong. -/
def setAll (vars : Variables) : List (Option (List Char)) → Variables
  | [] => vars
  | none :: _ => vars
  | some line :: lines => match readSetting? vars line with
    | none => vars
    | some none => setAll vars lines
    | some (some (name, value)) => setAll (set vars name value) lines

/-- The variables with those of a file, which may begin with a byte order mark. -/
def load (vars : Variables) (text : String) : Variables :=
  let text := match text.toList with
    | '\ufeff' :: rest => rest
    | text => text
  setAll vars (join [] .plain (rawLines text))

end Pageviews.Config.VariableFile
