import Pageviews.Text.Hex

/-!
Tables of code points: ascending runs of consecutive code points, each with a value, searched by
bisection. A table is written as text, one item `first-last=value` a run, in hexadecimal.
-/
namespace Pageviews.Unicode

/-- The code points from `first` to `last`, which share a value. -/
structure Run (α : Type) where
  first : Nat
  last : Nat
  value : α

/-- Search the runs at positions `lo` to `hi` for the one that holds `c`. -/
def bisect {α : Type} (runs : Array (Run α)) (c lo hi : Nat) : Option (Run α) :=
  if lo < hi then
    match runs[(lo + hi) / 2]? with
    | none => none
    | some r =>
      if c < r.first then bisect runs c lo ((lo + hi) / 2)
      else if r.last < c then bisect runs c ((lo + hi) / 2 + 1) hi
      else some r
  else none
termination_by hi - lo
decreasing_by all_goals omega

def findRun? {α : Type} (runs : Array (Run α)) (c : Nat) : Option (Run α) :=
  bisect runs c 0 runs.size

/-- The part of a text before the first separator, and what follows it if there is one. -/
def cutAt (separator : Char) : List Char → List Char × Option (List Char)
  | [] => ([], none)
  | c :: rest =>
    if c = separator then ([], some rest)
    else let (before, after) := cutAt separator rest; (c :: before, after)

/-- The parts of a text between blanks and line ends. -/
def items (text : List Char) : List (List Char) :=
  let (last, done) := text.foldr
    (fun c (item, done) => if c = ' ' ∨ c = '\n' then ([], item :: done) else (c :: item, done))
    ([], [])
  (last :: done).filter (· ≠ [])

/-- Numerals separated by full stops; the empty text is the empty list. -/
def numbers? (text : List Char) : Option (List Nat) :=
  if text = [] then some []
  else (items (text.map fun c => if c = '.' then ' ' else c)).mapM Text.hexNumber?

/-- Read one item of a table; a run without a value has the empty one. -/
def run? {α : Type} (value? : List Char → Option α) (item : List Char) : Option (Run α) := do
  let (range, value) := cutAt '=' item
  let (first, last) := cutAt '-' range
  let first ← Text.hexNumber? first
  let last ← (last.map Text.hexNumber?).getD (some first)
  return ⟨first, last, ← value? (value.getD [])⟩

/-- Read a table; an item that cannot be read is left out. -/
def table {α : Type} (value? : List Char → Option α) (text : String) : Array (Run α) :=
  ((items text.toList).filterMap (run? value?)).toArray

def tableOfSet (text : String) : Array (Run Unit) := table (fun _ => some ()) text

end Pageviews.Unicode
