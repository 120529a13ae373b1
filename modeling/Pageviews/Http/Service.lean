import Pageviews.Http.Asset
import Pageviews.Http.Ingestion
import Pageviews.Url.Percent
import Pageviews.Writer.Step

/-!
The service: its routes, and the pageviews that it hands to a writer. Sites of any origin may report
pageviews, so the responses of that route say that they may be read from anywhere.
-/
namespace Pageviews.Http

inductive Route where
  | health
  | pageviews
  /-- A file, by its name as it was written. -/
  | asset (segment : List Char)
  deriving DecidableEq

def Route.ofPath? (path : List Char) : Option Route :=
  if path = "/api/v1/healthcheck".toList then some .health
  else if path = "/api/v1/events/pageviews".toList then some .pageviews
  else match Text.after? "/static/".toList path with
    | some segment =>
      if segment.isEmpty || segment.contains '/' then none else some (.asset segment)
    | none => none

def methodNotAllowed (allowed : String) : Response := .empty 405 [("allow", allowed)]

/-- A file by its name as it was written, in which characters may be percent-encoded. -/
def serveAsset (segment : List Char) : Response :=
  match Text.ofUtf8? (Url.percentDecode segment) with
  | none => .text 400 "text/plain; charset=utf-8" "Invalid URL: Invalid UTF-8 in \x60file\x60" []
  | some name => match asset? (String.ofList name) with
    | some asset => .text 200 asset.contentType asset.text [("cache-control", "public, max-age=3600")]
    | none => .text 404 "text/plain; charset=utf-8" "404 Not Found" []

def readOnly (method : String) (response : Response) : Response :=
  if method = "GET" then response
  else if method = "HEAD" then response.withoutBody
  else methodNotAllowed "GET,HEAD"

/-- The headers that let scripts of any origin read a response. -/
def sharedHeaders : List (String × String) :=
  [("access-control-allow-origin", "*"),
    ("vary", "origin, access-control-request-method, access-control-request-headers")]

/-- The answer to a browser that asks what a script may send. -/
def preflight : Response :=
  .empty 200 (sharedHeaders ++
    [("access-control-allow-methods", "POST"),
      ("access-control-allow-headers",
        "content-type,access-control-max-age,x-prisme-referrer,x-prisme-document-referrer"),
      ("access-control-max-age", "3600"), ("allow", "POST")])

/-- A response and what was logged on the way to it. -/
structure Answer where
  response : Response
  records : List Log.Record
  deriving DecidableEq

def Rejection.answer (r : Rejection) : Answer := ⟨r.response.withHeaders sharedHeaders, r.records⟩

structure Service where
  lookup : Lookup
  writer : Writer.State Pageview

namespace Service

/-- Store a visit; there is no answer yet if the writer has no room for it. -/
def store (s : Service) (visit : Visit) : Service × Option Answer :=
  let (writer, ended?) := s.writer.offer visit.pageview
  let answer := fun (ended : Writer.Ended) =>
    if ended.complete then ⟨(Response.empty 200 []).withHeaders sharedHeaders, [visit.record]⟩
    else
      let answer := (Rejection.closed Writer.closedMessage).answer
      { answer with records := visit.record :: answer.records }
  ({ s with writer }, ended?.map answer)

def ingest (s : Service) (time : Nat) (r : Request) : Service × Option Answer :=
  match Visit.ofRequest s.lookup time r with
  | .error rejection => (s, some rejection.answer)
  | .ok visit => s.store visit

def handle (s : Service) (time : Nat) (r : Request) : Service × Option Answer :=
  let silent := fun (response : Response) => (s, some ⟨response, []⟩)
  match Route.ofPath? r.target.path with
  | none => silent ⟨404, [], ""⟩
  | some .health => silent (readOnly r.method (.empty 200 []))
  | some (.asset segment) => silent (readOnly r.method (serveAsset segment))
  | some .pageviews =>
    if r.method = "POST" then s.ingest time r
    else if r.method = "OPTIONS" then silent preflight
    else silent ((methodNotAllowed "POST").withHeaders sharedHeaders)

end Service
end Pageviews.Http
