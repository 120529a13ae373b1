import Pageviews.Domain.Label
import Pageviews.Text.Search

/-!
Domain names: any spelling of a name is mapped, normalized and cut into labels, and the name is the
ASCII forms of its labels, if all of them are as they should be.
-/
namespace Pageviews.Domain

open Unicode

/-- What a character of a spelling stands for, unless it is disallowed. -/
def mapChar (c : Char) : Option (List Char) :=
  match status c with
  | .valid => some [c]
  | .mapped image => some image
  | .disallowed => none

def mapText (spelling : List Char) : Option (List Char) :=
  (spelling.mapM mapChar).map (normalize ·.flatten)

def joinWith (separator : Char) (parts : List (List Char)) : List Char :=
  [separator].intercalate parts

/-- A name has no empty label and fits into a query. -/
def lengthsOk (labels : List (List Char)) : Bool :=
  labels.all (fun label => 1 ≤ label.length && label.length ≤ 63) &&
    (joinWith '.' labels).length ≤ 253

/-- Labels from right to left impose their rule on all labels of the name. -/
def directionsOk (labels : List (List Char)) : Bool :=
  !labels.any (·.any isRightToLeft) || labels.all bidiOk

def labels (rules : Rules) (spelling : List Char) : Option (List (List Char)) := do
  let text ← mapText spelling
  let decoded ← (Text.split '.' text).mapM decodeLabel
  if decoded.all (labelOk rules) && directionsOk decoded then some decoded else none

def toAscii (rules : Rules) (spelling : List Char) : Option (List Char) := do
  let encoded ← (← labels rules spelling).mapM encodeLabel
  if rules.checksLengths && !lengthsOk encoded then none else some (joinWith '.' encoded)

end Pageviews.Domain
