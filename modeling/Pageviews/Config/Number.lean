/-! Numbers as settings give them: decimal digits, with a plus sign or none. -/
namespace Pageviews.Config

inductive NumberError where
  | empty
  | invalidDigit
  | tooLarge
  deriving DecidableEq

def NumberError.message : NumberError → String
  | empty => "cannot parse integer from empty string"
  | invalidDigit => "invalid digit found in string"
  | tooLarge => "number too large to fit in target type"

def addDigit (limit n : Nat) (c : Char) : Except NumberError Nat :=
  if c.isDigit then
    let next := 10 * n + (c.toNat - 48)
    if next < limit then .ok next else .error .tooLarge
  else .error .invalidDigit

/-- Read a number below a limit; the first digit in fault is the error. -/
def parseNumber (limit : Nat) (text : String) : Except NumberError Nat :=
  match text.toList with
  | [] => .error .empty
  | ['+'] => .error .invalidDigit
  | '+' :: digits => digits.foldlM (addDigit limit) 0
  | digits => digits.foldlM (addDigit limit) 0

end Pageviews.Config
