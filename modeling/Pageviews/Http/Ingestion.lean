import Pageviews.Client.Family
import Pageviews.Event.Pageview
import Pageviews.Event.Referrer
import Pageviews.Http.Message
import Pageviews.Log
import Pageviews.Registry

/-!
What a request to record a pageview comes to: a pageview to store, or why there is none. Only four
headers are read, each by its first value.
-/
namespace Pageviews.Http

inductive Rejection where
  | missingUrl
  | invalidUrl (raw : String) (cause : Url.ParseError)
  | invalidReferrer (cause : ReferrerError)
  | invalidDomain (page : Url) (cause : InvalidDomain)
  | unregistered (domain : Domain)
  | lookupFailed (domain : Domain) (cause : String)
  | closed (cause : String)

namespace Rejection

/-- The sender is at fault, unless registry or writer failed. -/
def status : Rejection → Nat
  | lookupFailed .. | closed _ => 500
  | _ => 400

def message : Rejection → String
  | missingUrl => "missing page URL"
  | invalidUrl _ cause => "invalid page URL: " ++ cause.message
  | invalidReferrer cause => "invalid document referrer: " ++ cause.message
  | invalidDomain _ cause => cause.message
  | unregistered domain => "source " ++ domain.name ++ " is not registered"
  | lookupFailed .. => "failed to check source registration"
  | closed cause => cause

def records : Rejection → List Log.Record
  | missingUrl => []
  | invalidUrl raw cause =>
    [⟨.warn, "Rejected pageview with invalid page URL",
      [("url", .text raw), ("error", .text cause.message)]⟩]
  | invalidReferrer cause =>
    [⟨.warn, "Rejected pageview with invalid document referrer", [("error", .text cause.message)]⟩]
  | invalidDomain page cause =>
    [⟨.warn, "Rejected pageview with invalid domain",
      [("url", .text (String.ofList page.toText)), ("error", .text cause.message)]⟩]
  | unregistered domain =>
    [⟨.warn, "Rejected pageview from unregistered source", [("domain", .text domain.name)]⟩]
  | lookupFailed domain cause =>
    [⟨.error, "Source registry lookup failed",
      [("domain", .text domain.name), ("error", .text cause)]⟩]
  | closed cause => [⟨.error, "Failed to enqueue pageview", [("error", .text cause)]⟩]

def response (r : Rejection) : Response := Response.error r.status r.message

end Rejection

/-- A pageview to store, and where its visitor came from. -/
structure Visit where
  pageview : Pageview
  referrer : Referrer
  deriving DecidableEq

def Visit.record (v : Visit) : Log.Record :=
  ⟨.debug, "Pageview accepted",
    [("domain", .text v.pageview.domain.name), ("path", .text v.pageview.path),
      ("referrer", .text v.referrer.toText)]⟩

/-- The page that a request reports: the tracker names it, else the browser. -/
def pageUrl? (r : Request) : Option String :=
  ((r.header? "x-prisme-referrer").or (r.header? "referer")).filter (· ≠ "")

/-- Answers whether a domain may report pageviews, if it can. -/
abbrev Lookup := Domain → Except String Bool

def Lookup.ofRegistry (r : Registry) : Lookup := fun d => .ok (r.isRegistered d)

def Visit.ofRequest (lookup : Lookup) (time : Nat) (r : Request) : Except Rejection Visit :=
  match pageUrl? r with
  | none => .error .missingUrl
  | some raw => match Url.parse raw with
    | .error cause => .error (.invalidUrl raw cause)
    | .ok page => match Referrer.parse ((r.header? "x-prisme-document-referrer").getD "") with
      | .error cause => .error (.invalidReferrer cause)
      | .ok referrer =>
        let client := Client.ofUserAgent ((r.header? "user-agent").getD "")
        match Pageview.record time page client with
        | .error cause => .error (.invalidDomain page cause)
        | .ok pageview => match lookup pageview.domain with
          | .error cause => .error (.lookupFailed pageview.domain cause)
          | .ok false => .error (.unregistered pageview.domain)
          | .ok true => .ok ⟨pageview, referrer⟩

end Pageviews.Http
