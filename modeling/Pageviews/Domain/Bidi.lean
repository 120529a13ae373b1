import Pageviews.Unicode.BidiClass

/-! The rule for domain names with letters written from right to left. -/
namespace Pageviews.Domain

open Unicode

def isRightToLeft (c : Char) : Bool :=
  match BidiClass.ofChar c with
  | .rightToLeft | .arabicLetter | .arabicNumber => true
  | _ => false

/-- Classes that a label of either direction may hold. -/
def isWeak : BidiClass → Bool
  | .europeanNumber | .europeanSeparator | .europeanTerminator | .commonSeparator
  | .nonspacingMark | .boundaryNeutral | .otherNeutral => true
  | _ => false

/-- The class that ends a label, trailing marks aside. -/
def lastClass? (classes : List BidiClass) : Option BidiClass :=
  (classes.filter (· ≠ .nonspacingMark)).getLast?

/-- A label that runs from right to left ends in a letter or number and has one kind of number. -/
def rightToLeftOk (classes : List BidiClass) : Bool :=
  classes.all (fun k => isWeak k || k = .rightToLeft || k = .arabicLetter || k = .arabicNumber) &&
  (match lastClass? classes with
    | some .rightToLeft | some .arabicLetter | some .europeanNumber | some .arabicNumber => true
    | _ => false) &&
  !(classes.contains .europeanNumber && classes.contains .arabicNumber)

/-- A label that runs from left to right ends in a letter or number. -/
def leftToRightOk (classes : List BidiClass) : Bool :=
  classes.all (fun k => isWeak k || k = .leftToRight) &&
  (match lastClass? classes with
    | some .leftToRight | some .europeanNumber => true
    | _ => false)

/-- The first character of a label fixes its direction; an empty label breaks no rule. -/
def bidiOk (label : List Char) : Bool :=
  let classes := label.map BidiClass.ofChar
  match classes.head? with
  | none => true
  | some .rightToLeft | some .arabicLetter => rightToLeftOk classes
  | some .leftToRight => leftToRightOk classes
  | some _ => false

end Pageviews.Domain
