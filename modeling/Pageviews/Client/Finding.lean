import Pageviews.Client.Product
import Pageviews.Text.Search

/-! What a user agent text has given away so far, and the clues it is searched for. -/
namespace Pageviews.Client

def unknown : String := "UNKNOWN"

structure Finding where
  name : String
  category : Option Category
  system : String
  version : String

namespace Finding

def start : Finding := ⟨unknown, none, unknown, unknown⟩

def populate (f : Finding) (p : Product) : Finding :=
  { f with
    name := p.entry.name
    category := p.entry.category.or f.category
    system := p.entry.system.getD f.system }

def runs (f : Finding) (p : Product) : Finding :=
  { f with category := p.entry.category.or f.category, system := p.entry.name }

/-- The system is the one on record for a product. -/
def runsSystemOf (f : Finding) (p : Product) : Finding :=
  { f with category := p.entry.category.or f.category, system := p.entry.system.getD f.system }

def isProduct (f : Finding) (p : Product) (version : List Char) : Finding :=
  { f.populate p with version := String.ofList version }

end Finding

/-- A condition on a user agent text. -/
inductive Clue where
  | holds (word : String)
  | begins (word : String)
  | equals (word : String)
  | oneOf (words : List String)
  | both (a b : Clue)

def Clue.meets (text : List Char) : Clue → Bool
  | holds word => Text.has word text
  | begins word => Text.leads word text
  | equals word => text = word.toList
  | oneOf words => words.any (Text.has · text)
  | both a b => a.meets text && b.meets text

def firstMatch? (rules : List (Clue × Product)) (text : List Char) : Option Product :=
  (rules.find? (·.1.meets text)).map (·.2)

def isVersionChar (c : Char) : Bool := c = '.' || c.isDigit

def versionAfter (word : String) (text : List Char) : Option (List Char) :=
  Text.search (fun ahead => do
    let rest ← Text.after? word.toList ahead
    return (← Text.run? isVersionChar rest).1) text

/-- The version number that follows a word and stands before a character. -/
def versionBetween (word : String) (stop : Char) (text : List Char) : Option (List Char) :=
  Text.search (fun ahead => do
    let rest ← Text.after? word.toList ahead
    let (version, rest) ← Text.run? isVersionChar rest
    if rest.head? = some stop then some version else none) text

def versionOr (version : Option (List Char)) : List Char := version.getD unknown.toList

end Pageviews.Client
