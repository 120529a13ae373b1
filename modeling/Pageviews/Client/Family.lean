import Pageviews.Client.Basic
import Pageviews.Client.Recognition
import Pageviews.Text.Blank

/-!
The client of a user agent text. Names on record are gathered into families, so that clients compare
across versions and with data from other collectors.
-/
namespace Pageviews.Client

def knownOrOther (name : String) : String :=
  if name = "" ∨ name = unknown then unrecognized else name

def isAppleSystem (system : String) : Bool :=
  system = "iPhone" || system = "iPad" || system = "iPod"

def systemFamily (system : String) : String :=
  if Text.leads "Windows" system.toList then "Windows"
  else if system = "Mac OSX" then "Mac OS X"
  else if system = "ChromeOS" then "Chrome OS"
  else if isAppleSystem system then "iOS"
  else knownOrOther system

/-- Whether a version has a number before its first full stop and a digit behind it. -/
def hasMinorVersion (version : String) : Bool :=
  match Text.cut? ['.'] version.toList with
  | some (major, minor) => major ≠ [] && minor.head?.any Char.isDigit
  | none => false

/-- The family of the browser. One whose version lacks a minor number is not believed. -/
def Finding.browserFamily (f : Finding) : String :=
  let version := knownOrOther f.version
  if version ≠ unrecognized ∧ !hasMinorVersion version then unrecognized
  else if f.name = "Chrome" ∧ f.system = "Android" then "Chrome Mobile"
  else if f.name = "Chrome" ∧ isAppleSystem f.system then "Chrome Mobile iOS"
  else if f.name = "Firefox" ∧ f.system = "Android" then "Firefox Mobile"
  else if f.name = "Safari" ∧ isAppleSystem f.system then "Mobile Safari"
  else if f.name = "Internet Explorer" then "IE"
  else knownOrOther f.name

/-- The model of an Android device: what follows the version of Android in the first parenthesis. -/
def androidModel? (text : List Char) : Option (List Char) := do
  let (_, rest) ← Text.cut? ['('] text
  let (platform, _) ← Text.cut? [')'] rest
  let tokens := (Text.split ';' platform).map Text.trim
  let model ← (tokens.dropWhile (!Text.leads "Android" ·)).tail.head?
  let model := match Text.cut? " Build".toList model with
    | some (model, _) => Text.trim model
    | none => Text.trim model
  if model = [] ∨ ["wv", "Mobile", "Tablet"].any (·.toList = model) then none else some model

def Finding.deviceFamily (f : Finding) (text : List Char) : String :=
  if isAppleSystem f.system then f.system
  else if f.system = "Mac OSX" then "Mac"
  else if f.category = some .crawler then "Spider"
  else if f.system = "Android" then ((androidModel? text).map String.ofList).getD unrecognized
  else unrecognized

def ofFinding (text : List Char) : Option Finding → Client
  | none => other
  | some f => ⟨systemFamily f.system, f.browserFamily, f.deviceFamily text⟩

def ofUserAgent (agent : String) : Client := ofFinding agent.toList (finding? agent.toList)

end Pageviews.Client
