import Pageviews.Http.Target
import Pageviews.Json.Writer

/-! Requests and responses. -/
namespace Pageviews.Http

/-- A request; the names of its headers are in lower case. -/
structure Request where
  method : String
  target : Target
  headers : List (String × String)
  body : String
  deriving DecidableEq

/-- A response, with its headers in no order. -/
structure Response where
  status : Nat
  headers : List (String × String)
  body : String
  deriving DecidableEq

def isTokenChar (c : Char) : Bool := c.isAlphanum || "!#$%&'*+-.^_\x60|~".toList.contains c

def isToken (text : String) : Bool := !text.isEmpty && text.toList.all isTokenChar

def isValueChar (c : Char) : Bool := c = '\t' || (' ' ≤ c && c ≠ '\x7f')

def isReadable (value : String) : Bool :=
  value.toList.all fun c => c = '\t' || (' ' ≤ c && c < '\x7f')

namespace Request

def make? (method target : String) (headers : List (String × String)) (body : String) :
    Option Request :=
  match Target.parse? target with
  | none => none
  | some target =>
    if isToken method && headers.all fun (name, value) =>
        isToken name && value.toList.all isValueChar then
      some ⟨method, target, headers.map fun (name, value) => (name.map Char.toLower, value), body⟩
    else none

/-- The first value of a header, if it is readable. -/
def header? (r : Request) (name : String) : Option String :=
  (r.headers.lookup name).filter isReadable

end Request

namespace Response

def empty (status : Nat) (headers : List (String × String)) : Response :=
  ⟨status, ("content-length", "0") :: headers, ""⟩

def text (status : Nat) (contentType body : String) (headers : List (String × String)) : Response :=
  ⟨status,
    ("content-type", contentType) :: ("content-length", toString body.utf8ByteSize) :: headers, body⟩

def error (status : Nat) (message : String) : Response :=
  text status "application/json" (Json.writeObject [("error", Json.writeString message)]) []

def withoutBody (r : Response) : Response := { r with body := "" }

def withHeaders (r : Response) (headers : List (String × String)) : Response :=
  { r with headers := r.headers ++ headers }

end Response
end Pageviews.Http
