import Pageviews.Domain.Bidi
import Pageviews.Domain.Joiner
import Pageviews.Domain.Punycode
import Pageviews.Unicode.Mapping
import Pageviews.Unicode.Mark
import Pageviews.Unicode.Normalization

/-!
Labels, the parts of a domain name between full stops: their decoded form, the conditions that this
form meets, and the ASCII form it is written in.
-/
namespace Pageviews.Domain

open Unicode

/-- What a label has to meet beyond the rules for all labels. -/
structure Rules where
  /-- The ASCII characters that may stand in a label. -/
  allowsAscii : Char → Bool
  /-- Whether hyphens at the ends and at the third and fourth place are refused. -/
  checksHyphens : Bool
  /-- Whether the lengths of labels and of the name are limited. -/
  checksLengths : Bool

def isHostChar (c : Char) : Bool := c.isLower || c.isDigit || c == '-'

/-- The rules for names that are recorded and registered. -/
def Rules.registered : Rules := ⟨isHostChar, true, true⟩

def isForbiddenInHost (c : Char) : Bool :=
  c.toNat ≤ 0x20 || c.toNat = 0x7F || "%#/:<>?@[\\]^|".toList.contains c

def Rules.urlHost : Rules := ⟨fun c => !isForbiddenInHost c && !c.isUpper, false, false⟩

/-- What a label in encoded form begins with. -/
def encodedMark : List Char := ['x', 'n', '-', '-']

def isAscii (text : List Char) : Bool := text.all (·.toNat < 0x80)

/-- The decoded form of a label; one that needs no encoding must not be encoded. -/
def decodeLabel (label : List Char) : Option (List Char) :=
  if encodedMark.isPrefixOf label then
    if isAscii label ∧ label.length ≤ 2004 then
      match Punycode.decode (label.drop 4) with
      | some decoded => if isAscii decoded then none else some decoded
      | none => none
    else none
  else some label

def hyphensOk (label : List Char) : Bool :=
  label.head? ≠ some '-' && label.getLast? ≠ some '-' &&
    !(label[2]? = some '-' && label[3]? = some '-')

def charOk (rules : Rules) (c : Char) : Bool :=
  if c.toNat < 0x80 then rules.allowsAscii c && c ≠ '.' else status c = .valid

def labelOk (rules : Rules) (label : List Char) : Bool :=
  normalize label = label &&
  (if rules.checksHyphens then hyphensOk label else !encodedMark.isPrefixOf label) &&
  !label.head?.any isMark &&
  label.all (charOk rules) &&
  joinersOk label

def encodeLabel (label : List Char) : Option (List Char) :=
  if isAscii label then some label
  else if label.length ≤ 1000 then some (encodedMark ++ Punycode.encode label)
  else none

end Pageviews.Domain
