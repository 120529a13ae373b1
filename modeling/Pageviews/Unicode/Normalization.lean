import Pageviews.Unicode.CombiningClass
import Pageviews.Unicode.Composite

/-!
Composed normal form: characters are taken apart, marks on one base are put into the order of their
classes, and what can be put together is. Composites that are never composed again are outside the
domain: the mapping of domain names has replaced them before.
-/
namespace Pageviews.Unicode

/-- Take a character apart, `depth` times at most. -/
def decomposeChar : Nat → Char → List Char
  | 0, c => [c]
  | depth + 1, c =>
    match parts? c with
    | none => [c]
    | some (first, second) => decomposeChar depth first ++ decomposeChar depth second

/-- Take a text apart; composites nest no deeper than three. -/
def decompose (text : List Char) : List Char := text.flatMap (decomposeChar 3)

/-- Put a character before ordered text; a mark goes behind the marks of smaller class. -/
def insertMark (c : Char) : List Char → List Char
  | [] => [c]
  | d :: rest =>
    if combiningClass d ≠ 0 ∧ combiningClass d < combiningClass c then d :: insertMark c rest
    else c :: d :: rest

/-- Order the marks on each base by class, those of one class as they came. -/
def orderMarks (text : List Char) : List Char := text.foldr insertMark []

/--
Compose the text that follows a base. The marks `held` between them, in reverse order, have not
combined; a later character is blocked from the base by a held one of at least its own class.
-/
def composeAfter (base : Char) (held : List Char) : List Char → List Char
  | [] => base :: held.reverse
  | c :: rest =>
    let free := held.all fun mark => combiningClass mark < combiningClass c
    match if free then composite? base c else none with
    | some composite => composeAfter composite held rest
    | none =>
      if combiningClass c = 0 then base :: held.reverse ++ composeAfter c [] rest
      else composeAfter base (c :: held) rest

/-- Compose text whose marks are in order; marks before the first base stay. -/
def compose : List Char → List Char
  | [] => []
  | c :: rest => if combiningClass c = 0 then composeAfter c [] rest else c :: compose rest

/-- The composed normal form. -/
def normalize (text : List Char) : List Char := compose (orderMarks (decompose text))

end Pageviews.Unicode
