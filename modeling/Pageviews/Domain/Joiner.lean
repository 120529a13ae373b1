import Pageviews.Unicode.CombiningClass
import Pageviews.Unicode.JoiningType

/-! Where the invisible joiner and non-joiner may stand in a label. -/
namespace Pageviews.Domain

open Unicode

/-- Whether the nearest character that is not transparent joins on the given side. -/
def joinsToward (side : JoiningType) (neighbours : List Char) : Bool :=
  match (neighbours.map JoiningType.ofChar).find? (· ≠ .transparent) with
  | some kind => kind = side || kind = .both
  | none => false

/-- Both may follow a virama; the non-joiner may also part letters that would join across it. -/
def joinerOk (before : List Char) (c : Char) (after : List Char) : Bool :=
  if before.head?.any (combiningClass · = viramaClass) then true
  else c = '\u200c' && joinsToward .left before && joinsToward .right after

/-- Every joiner after the text `before`, which is in reverse order, stands where it may. -/
def joinersOkAfter (before : List Char) : List Char → Bool
  | [] => true
  | c :: after =>
    (if c = '\u200c' ∨ c = '\u200d' then joinerOk before c after else true) &&
      joinersOkAfter (c :: before) after

def joinersOk (label : List Char) : Bool := joinersOkAfter [] label

end Pageviews.Domain
