import Pageviews.Text.Hex
import Pageviews.Text.Search

/-! Hosts that are numbers: addresses of the fourth version, in all the forms URLs allow. -/
namespace Pageviews.Url

def numberInBase? (base : Nat) (digits : List Char) : Option Nat :=
  digits.foldlM (fun n c => (Text.hexValue? c).bind fun d =>
    if d < base then some (base * n + d) else none) 0

/-- A part of an address: hexadecimal after `0x`, octal after another zero, else decimal. -/
def addressPart? : List Char → Option Nat
  | [] => none
  | '0' :: 'x' :: digits => numberInBase? 16 digits
  | '0' :: 'X' :: digits => numberInBase? 16 digits
  | '0' :: d :: digits => numberInBase? 8 (d :: digits)
  | digits => numberInBase? 10 digits

/-- The parts of a host between full stops; one full stop may end it. -/
def hostParts (host : List Char) : List (List Char) :=
  let parts := Text.split '.' host
  if 1 < parts.length ∧ parts.getLast? = some [] then parts.dropLast else parts

/-- Whether the last part of a host makes it an address. -/
def endsInNumber (host : List Char) : Bool :=
  match (hostParts host).getLast? with
  | none => false
  | some part => (part ≠ [] && part.all Char.isDigit) || (addressPart? part).isSome

/-- The address of a host: the last part fills all the bytes that the others leave. -/
def parseIpv4 (host : List Char) : Option Nat := do
  let numbers ← (hostParts host).mapM addressPart?
  let last ← numbers.getLast?
  let bytes := numbers.dropLast
  if bytes.length ≤ 3 ∧ bytes.all (· < 256) ∧ last < Nat.pow 256 (4 - bytes.length) then
    some (bytes.foldr (fun byte n => n / 256 + byte * 0x1000000) 0 + last)
  else none

def writeIpv4 (address : Nat) : List Char :=
  ['.'].intercalate ([0x1000000, 0x10000, 0x100, 1].map fun unit =>
    (toString (address / unit % 256)).toList)

end Pageviews.Url
