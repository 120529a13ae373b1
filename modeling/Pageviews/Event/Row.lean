import Pageviews.Event.Pageview
import Pageviews.Text.Utf8

/-! Pageviews as rows of a table, and the bytes of a row. -/
namespace Pageviews

/-- A row: the columns of the table in their order. -/
structure Row where
  time : Nat
  domain : String
  path : String
  operatingSystem : String
  browserFamily : String
  device : String
  deriving DecidableEq

def Pageview.toRow (p : Pageview) : Row :=
  ⟨p.time, p.domain.name, p.path, p.client.operatingSystem, p.client.browserFamily, p.client.device⟩

namespace Row

def texts (r : Row) : List String :=
  [r.domain, r.path, r.operatingSystem, r.browserFamily, r.device]

/-- A number seven bits a byte, least significant first; all bytes but the last are marked. -/
def writeLength (n : Nat) : List UInt8 :=
  if n < 0x80 then [UInt8.ofNat n] else UInt8.ofNat (n % 0x80 + 0x80) :: writeLength (n / 0x80)
termination_by n
decreasing_by omega

/-- A text behind the number of its bytes. -/
def writeText (text : String) : List UInt8 :=
  let bytes := Text.utf8 text.toList
  writeLength bytes.length ++ bytes

/-- The low bytes of a number, least significant first. -/
def littleEndian : Nat → Nat → List UInt8
  | 0, _ => []
  | count + 1, n => UInt8.ofNat (n % 0x100) :: littleEndian count (n / 0x100)

/-- The bytes of a row: its time in eight, then its texts. -/
def toBytes (r : Row) : List UInt8 := littleEndian 8 r.time ++ r.texts.flatMap writeText

end Row
end Pageviews
