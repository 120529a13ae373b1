import Pageviews.Client.Json
import Pageviews.Domain.Json
import Pageviews.Url.Parser

/-! Pageviews: the visits that are recorded. -/
namespace Pageviews

/-- A visit to a path of a domain, at a time in milliseconds of the clock that recorded it. -/
structure Pageview where
  time : Nat
  domain : Domain
  path : String
  client : Client
  deriving DecidableEq

namespace Pageview

/-- The visit to a page at a time: of its URL only host and path are recorded. -/
def record (time : Nat) (page : Url) (client : Client) : Except InvalidDomain Pageview := do
  let domain ← Domain.parse (String.ofList page.hostText)
  return ⟨time, domain, String.ofList page.path, client⟩

/-- The pageview as an object on one line, with its time as `showTime` writes it. -/
def toJson (showTime : Nat → String) (p : Pageview) : String :=
  Json.writeObject
    [("timestamp", Json.writeString (showTime p.time)), ("domain", p.domain.toJson),
      ("path", Json.writeString p.path), ("client", p.client.toJson)]

end Pageview
end Pageviews
