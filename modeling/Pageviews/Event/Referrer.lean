import Pageviews.Domain.Basic
import Pageviews.Json.Writer
import Pageviews.Url.Parser

/-! Where a visitor came from. -/
namespace Pageviews

/-- A referrer; a visit without one is direct, which is no error. -/
inductive Referrer where
  | direct
  | site (domain : Domain)
  deriving DecidableEq

inductive ReferrerError where
  | invalidUrl (cause : Url.ParseError)
  | invalidDomain (cause : InvalidDomain)
  deriving DecidableEq

def ReferrerError.message : ReferrerError → String
  | invalidUrl cause => "invalid referrer: " ++ cause.message
  | invalidDomain cause => cause.message

namespace Referrer

/-- Read a referrer: no text at all, or a URL whose host is a domain. -/
def parse (raw : String) : Except ReferrerError Referrer :=
  if raw = "" then .ok .direct
  else match Url.parse raw with
    | .error cause => .error (.invalidUrl cause)
    | .ok url => match Domain.parse (String.ofList url.hostText) with
      | .error cause => .error (.invalidDomain cause)
      | .ok domain => .ok (.site domain)

def domain? : Referrer → Option Domain
  | direct => none
  | site domain => some domain

def toText : Referrer → String
  | direct => "direct"
  | site domain => domain.name

def toJson (r : Referrer) : String := Json.writeString r.toText

end Referrer
end Pageviews
