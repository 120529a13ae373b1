import Pageviews.Text.Hex
import Pageviews.Text.Search

/-! Addresses of the sixth version: eight pieces of sixteen bits. -/
namespace Pageviews.Url

def piece? (digits : List Char) : Option (List Nat) :=
  if 1 ≤ digits.length ∧ digits.length ≤ 4 then (Text.hexNumber? digits).map ([·]) else none

def decimalByte? (digits : List Char) : Option Nat :=
  if digits ≠ [] ∧ digits.length ≤ 3 ∧ digits.all Char.isDigit ∧
      (digits.head? = some '0' → digits.length = 1) then
    let n := digits.foldl (fun n c => 10 * n + (c.toNat - 48)) 0
    if n < 256 then some n else none
  else none

/-- Two pieces given as four decimal bytes. -/
def decimalPieces? (text : List Char) : Option (List Nat) := do
  match ← (Text.split '.' text).mapM decimalByte? with
  | [a, b, c, d] => some [a * 256 + b, c * 256 + d]
  | _ => none

/-- The pieces of a list of them; the last may be in decimal where the address ends. -/
def pieces? (atEnd : Bool) : List (List Char) → Option (List Nat)
  | [] => some []
  | [last] => (piece? last).or (if atEnd then decimalPieces? last else none)
  | digits :: rest => do return (← piece? digits) ++ (← pieces? atEnd rest)

def piecesOf? (atEnd : Bool) (text : List Char) : Option (List Nat) :=
  if text = [] then some [] else pieces? atEnd (Text.split ':' text)

/-- Read an address; a double colon stands for one or more pieces of zero. -/
def parseIpv6 (text : List Char) : Option (List Nat) :=
  match Text.cut? [':', ':'] text with
  | some (before, after) => do
    let left ← piecesOf? false before
    let right ← piecesOf? true after
    if left.length + right.length ≤ 7 then
      some (left ++ List.replicate (8 - left.length - right.length) 0 ++ right)
    else none
  | none => do
    let pieces ← piecesOf? true text
    if pieces.length = 8 then some pieces else none

/-- The lengths of the runs of zeros that begin at each piece. -/
def zeroRuns : List Nat → List Nat
  | [] => []
  | n :: rest =>
    let runs := zeroRuns rest
    (if n = 0 then runs.head?.getD 0 + 1 else 0) :: runs

def writePieces (pieces : List Nat) : List Char := [':'].intercalate (pieces.map Text.hexNumeral)

/-- Write an address; the first of its longest runs of zeros is left out, unless it is a single one. -/
def writeIpv6 (pieces : List Nat) : List Char :=
  let runs := zeroRuns pieces
  let longest := runs.foldl max 0
  if longest < 2 then writePieces pieces
  else
    let start := (runs.takeWhile (· ≠ longest)).length
    writePieces (pieces.take start) ++ [':', ':'] ++ writePieces (pieces.drop (start + longest))

end Pageviews.Url
