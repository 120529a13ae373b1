import Pageviews.Domain.Basic
import Pageviews.Json.ValueReader
import Pageviews.Json.Writer

/-! Domains as JSON text. -/
namespace Pageviews.Domain

def toJson (d : Domain) : String := Json.writeString d.name

/-- Read a domain from the text of a string; any spelling of its name will do. -/
def ofJson (text : String) : Except Json.Fault Domain :=
  Json.readAll (fun text => do
    let (raw, rest) ← Json.readString text
    match parse (String.ofList raw) with
    | .ok d => .ok (d, rest)
    | .error _ => .error .mismatched) text.toList

end Pageviews.Domain
