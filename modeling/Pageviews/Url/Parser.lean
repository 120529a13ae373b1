import Pageviews.Text.Blank
import Pageviews.Url.Basic
import Pageviews.Url.Path

/-! Reading absolute URLs, with all the leniency that browsers show. -/
namespace Pageviews.Url

/-- How the scheme of a URL governs what follows it. -/
inductive SchemeKind where
  /-- A scheme whose hosts are names or addresses, with the port that need not be written. -/
  | network (defaultPort : Nat)
  | file
  | other
  deriving DecidableEq

def SchemeKind.isSpecial (kind : SchemeKind) : Bool := kind ≠ other

def schemeKind (scheme : List Char) : SchemeKind :=
  if scheme = "http".toList ∨ scheme = "ws".toList then .network 80
  else if scheme = "https".toList ∨ scheme = "wss".toList then .network 443
  else if scheme = "ftp".toList then .network 21
  else if scheme = "file".toList then .file
  else .other

/-- The text without controls and spaces at its ends, and without tabs and line ends. -/
def clean (raw : List Char) : List Char :=
  (Text.trimWhere (·.toNat ≤ 0x20) raw).filter fun c => c ≠ '\t' && c ≠ '\n' && c ≠ '\r'

def isSchemeChar (c : Char) : Bool := c.isAlphanum || c = '+' || c = '-' || c = '.'

/-- The scheme in small letters, and the text behind its colon. -/
def scheme? (text : List Char) : Option (List Char × List Char) :=
  if text.head?.any Char.isAlpha then
    match text.dropWhile isSchemeChar with
    | ':' :: rest => some ((text.takeWhile isSchemeChar).map Char.toLower, rest)
    | _ => none
  else none

def cutMark (mark : Char) (text : List Char) : List Char × Option (List Char) :=
  match Text.cut? [mark] text with
  | some (before, after) => (before, some after)
  | none => (text, none)

/-- A character that separates the parts of a path and ends what stands before it. -/
def isSeparator (special : Bool) (c : Char) : Bool := c = '/' || (special && c = '\\')

/-- The credentials before the last at sign, if there is one, and the text behind it. -/
def splitCredentials (text : List Char) : Option (List Char) × List Char :=
  match Text.cut? ['@'] text.reverse with
  | some (behind, before) => (some before.reverse, behind.reverse)
  | none => (none, text)

/-- The length of the host at the start of a text: up to a colon outside square brackets. -/
def hostLength (inBrackets : Bool) : List Char → Nat
  | [] => 0
  | c :: rest =>
    if c = ':' ∧ !inBrackets then 0
    else 1 + hostLength (c = '[' ∨ (inBrackets ∧ c ≠ ']')) rest

def natOfDigits (digits : List Char) : Nat :=
  digits.foldl (fun n c => 10 * n + (c.toNat - 48)) 0

/-- The port written in a text, and what follows it; no digits and the default mean none. -/
def parsePort (kind : SchemeKind) (text : List Char) :
    Except ParseError (Option Nat × List Char) :=
  let digits := text.takeWhile Char.isDigit
  let rest := text.dropWhile Char.isDigit
  if 0xFFFF < natOfDigits digits then .error .invalidPort
  else if rest = [] ∨ rest.head? = some '\\' then
    let port := natOfDigits digits
    .ok (if digits = [] ∨ kind = .network port then none else some port, rest)
  else .error .invalidPort

/-- The host of a URL that is no file; only an open scheme does without one. -/
def parseAnyHost (kind : SchemeKind) (text : List Char) : Except ParseError (Option Host) :=
  if kind.isSpecial then
    if text = [] then .error .emptyHost else (parseHost text).map some
  else if text = [] then .ok none
  else (parsePlainHost text).map some

/-- Read an authority; the text left over behind it begins the path. -/
def parseAuthority (kind : SchemeKind) (pathFollows : Bool) (text : List Char) :
    Except ParseError (Authority × List Char) := do
  let (credentials, rest) := splitCredentials text
  if credentials = some [] ∧ rest = [] ∧ pathFollows then .error .emptyHost
  else
    let (username, password) := cutMark ':' (credentials.getD [])
    let username := percentEncode encodesInUserinfo username
    let password := percentEncode encodesInUserinfo (password.getD [])
    let length := hostLength false rest
    let host ← parseAnyHost kind (rest.take length)
    match rest.drop length with
    | [] =>
      if host = none ∧ (username ≠ [] ∨ password ≠ []) then .error .emptyHost
      else .ok (⟨username, password, host, none⟩, [])
    | _ :: portText =>
      if host = none then .error .emptyHost
      else
        let (port, rest) ← parsePort kind portText
        .ok (⟨username, password, host, port⟩, rest)

/-- Authority and path of a URL that is no file, from behind the double slash. -/
def parseHierarchy (kind : SchemeKind) (marked : Bool) (text : List Char) :
    Except ParseError (Authority × List Char) := do
  let authorityText := text.takeWhile (!isSeparator kind.isSpecial ·)
  let path := text.dropWhile (!isSeparator kind.isSpecial ·)
  let (authority, rest) ← parseAuthority kind (path ≠ [] || marked) authorityText
  let path := rest ++ path
  let tail := if (path.head?.any (isSeparator kind.isSpecial)) then path.tail else path
  .ok (authority,
    if kind = .other ∧ path = [] then []
    else (followPath false kind.isSpecial tail).toText)

/-- The host of a file; the local host is the same as none. -/
def parseFileHost (text : List Char) : Except ParseError (Option Host) :=
  if text = [] then .ok none
  else (parseHost text).map fun host =>
    if host = .name "localhost".toList then none else some host

/-- Host and path of a file; the name of a drive makes the host void. -/
def parseFile (text : List Char) : Except ParseError (Authority × List Char) :=
  let hostless := fun path =>
    Except.ok (⟨[], [], none, none⟩, (followPath true true path).toFileText)
  match text with
  | a :: rest =>
    if isSeparator true a then
      match rest with
      | b :: rest' =>
        if isSeparator true b then
          let hostPart := rest'.takeWhile (!isSeparator true ·)
          if isDrive hostPart then hostless rest'
          else do
            let host ← parseFileHost hostPart
            let directory := followPath true true (rest'.dropWhile (!isSeparator true ·)).tail
            .ok (⟨[], [], if directory.onDrive then none else host, none⟩, directory.toFileText)
        else hostless rest
      | [] => hostless rest
    else hostless text
  | [] => hostless text

def parse (raw : String) : Except ParseError Url := do
  match scheme? (clean raw.toList) with
  | none => .error .relative
  | some (scheme, rest) =>
    let kind := schemeKind scheme
    let (rest, fragment) := cutMark '#' rest
    let (hierarchy, query) := cutMark '?' rest
    let query := query.map (percentEncode (encodesInQuery kind.isSpecial))
    let fragment := fragment.map (percentEncode encodesInFragment)
    let marked := query.isSome || fragment.isSome
    let (authority, path) ← (match kind with
      | .file => (parseFile hierarchy).map fun (a, path) => (some a, path)
      | .network _ => (parseHierarchy kind marked (hierarchy.dropWhile (isSeparator true))).map
          fun (a, path) => (some a, path)
      | .other =>
        match hierarchy with
        | '/' :: '/' :: rest =>
          (parseHierarchy kind marked rest).map fun (a, path) => (some a, path)
        | '/' :: rest => .ok (none, (followPath false false rest).toText)
        | rest => .ok (none, percentEncode isControl rest))
    .ok ⟨scheme, authority, path, query, fragment⟩

end Pageviews.Url
