import Pageviews.Domain.Name
import Pageviews.Url.Ipv4
import Pageviews.Url.Ipv6
import Pageviews.Url.Percent

/-! The hosts of URLs. -/
namespace Pageviews.Url

inductive ParseError where
  | emptyHost
  | invalidName
  | invalidPort
  | invalidIpv4
  | invalidIpv6
  | invalidHostChar
  | relative
  deriving DecidableEq

def ParseError.message : ParseError → String
  | emptyHost => "empty host"
  | invalidName => "invalid international domain name"
  | invalidPort => "invalid port number"
  | invalidIpv4 => "invalid IPv4 address"
  | invalidIpv6 => "invalid IPv6 address"
  | invalidHostChar => "invalid domain character"
  | relative => "relative URL without a base"

inductive Host where
  | name (text : List Char)
  | ipv4 (address : Nat)
  | ipv6 (pieces : List Nat)
  deriving DecidableEq

def Host.toText : Host → List Char
  | name text => text
  | ipv4 address => writeIpv4 address
  | ipv6 pieces => '[' :: writeIpv6 pieces ++ [']']

def parseBracketed (text : List Char) : Except ParseError Host :=
  if text.getLast? = some ']' then
    match parseIpv6 (text.drop 1).dropLast with
    | some pieces => .ok (.ipv6 pieces)
    | none => .error .invalidIpv6
  else .error .invalidIpv6

def decodeHost (text : List Char) : Option (List Char) :=
  if text.contains '%' then Text.ofUtf8? (percentDecode text) else some text

/-- The host of a URL whose scheme gives hosts a meaning. -/
def parseHost (text : List Char) : Except ParseError Host :=
  if text.head? = some '[' then parseBracketed text
  else match (decodeHost text).bind (Domain.toAscii .urlHost) with
    | none => .error .invalidName
    | some name =>
      if name = [] then .error .emptyHost
      else if endsInNumber name then
        match parseIpv4 name with
        | some address => .ok (.ipv4 address)
        | none => .error .invalidIpv4
      else .ok (.name name)

def isForbiddenHostChar (c : Char) : Bool := "\x00\t\n\r #/:<>?@[\\]^|".toList.contains c

/-- The host of a URL whose scheme leaves its meaning open. -/
def parsePlainHost (text : List Char) : Except ParseError Host :=
  if text.head? = some '[' then parseBracketed text
  else if text.any isForbiddenHostChar then .error .invalidHostChar
  else .ok (.name (percentEncode isControl text))

end Pageviews.Url
