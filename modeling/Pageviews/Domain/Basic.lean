import Pageviews.Domain.Name
import Pageviews.Text.Quoted

/-! Domains: the names under which sites are registered and recorded. -/
namespace Pageviews

structure InvalidDomain where
  raw : String
  deriving DecidableEq

def InvalidDomain.message (e : InvalidDomain) : String :=
  Text.quoted e.raw ++ " is not a valid domain name"

/-- A domain, by its ASCII form: two spellings name the same domain when their forms are equal. -/
structure Domain where
  name : String
  deriving DecidableEq, Hashable

namespace Domain

def parse (raw : String) : Except InvalidDomain Domain :=
  match toAscii .registered raw.toList with
  | some name => .ok ⟨String.ofList name⟩
  | none => .error ⟨raw⟩

end Domain
end Pageviews
