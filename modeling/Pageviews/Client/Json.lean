import Pageviews.Client.Basic
import Pageviews.Json.RecordReader
import Pageviews.Json.Writer

/-! Clients as JSON text. -/
namespace Pageviews.Client

def memberNames : List String := ["operating_system", "browser_family", "device"]

def toJson (c : Client) : String :=
  Json.writeObject (memberNames.zip
    [Json.writeString c.operatingSystem, Json.writeString c.browserFamily, Json.writeString c.device])

/-- Read a client from the text of an object, or of an array of its three strings. -/
def ofJson (text : String) : Except Json.Fault Client := do
  match ← Json.readAll (Json.readRecord (memberNames.map String.toList)) text.toList with
  | [operatingSystem, browserFamily, device] =>
    return ⟨String.ofList operatingSystem, String.ofList browserFamily, String.ofList device⟩
  | _ => .error .mismatched

end Pageviews.Client
