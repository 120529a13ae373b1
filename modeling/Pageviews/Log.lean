/-! Log records. -/
namespace Pageviews.Log

inductive Level where
  | debug
  | info
  | warn
  | error
  deriving DecidableEq

/-- The value of a field: a number, or the text of anything else. -/
inductive Value where
  | number (n : Nat)
  | text (s : String)
  deriving DecidableEq

structure Record where
  level : Level
  message : String
  fields : List (String × Value)
  deriving DecidableEq

end Pageviews.Log
