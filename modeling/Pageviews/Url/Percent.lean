import Pageviews.Text.Hex
import Pageviews.Text.Utf8

/-! Percent-encoding: the bytes of characters that may not stand in a part of a URL. -/
namespace Pageviews.Url

open Text

/-- The characters that stand nowhere in a URL: controls and all beyond ASCII. -/
def isControl (c : Char) : Bool := c.toNat < 0x20 || 0x7F ≤ c.toNat

def encodesInFragment (c : Char) : Bool := isControl c || " \"<>`".toList.contains c

def encodesInQuery (special : Bool) (c : Char) : Bool :=
  isControl c || " \"#<>".toList.contains c || (special && c = '\'')

def encodesInPath (c : Char) : Bool := encodesInFragment c || "#?\x7b\x7d".toList.contains c

def encodesInUserinfo (c : Char) : Bool := encodesInPath c || "/:;=@[\\]^|".toList.contains c

def encodeByte (b : UInt8) : List Char :=
  ['%', hexDigitUpper (b.toNat / 16), hexDigitUpper (b.toNat % 16)]

def percentEncode (encodes : Char → Bool) (text : List Char) : List Char :=
  text.flatMap fun c => if encodes c then (utf8 [c]).flatMap encodeByte else [c]

/-- The bytes of a text in which a percent sign and two digits stand for a byte. -/
def percentDecode : List Char → List UInt8
  | [] => []
  | '%' :: a :: b :: rest =>
    match hexValue? a, hexValue? b with
    | some high, some low => UInt8.ofNat (16 * high + low) :: percentDecode rest
    | _, _ => utf8 ['%'] ++ percentDecode (a :: b :: rest)
  | c :: rest => utf8 [c] ++ percentDecode rest

end Pageviews.Url
