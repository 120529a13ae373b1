/-! What can be wrong with a text that should hold a JSON value of a certain form. -/
namespace Pageviews.Json

inductive Fault where
  /-- The text is not JSON, or holds more than one value. -/
  | malformed
  /-- The value is not of the form asked for. -/
  | mismatched
  /-- The text ends inside the value. -/
  | truncated
  deriving DecidableEq

def isBlank (c : Char) : Bool := c = ' ' || c = '\n' || c = '\t' || c = '\r'

def skipBlanks (text : List Char) : List Char := text.dropWhile isBlank

theorem length_dropWhile_le (p : Char → Bool) (text : List Char) :
    (text.dropWhile p).length ≤ text.length :=
  (text.dropWhile_sublist p).length_le

theorem length_skipBlanks_le (text : List Char) : (skipBlanks text).length ≤ text.length :=
  length_dropWhile_le ..

end Pageviews.Json
