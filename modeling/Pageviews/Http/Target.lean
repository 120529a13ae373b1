import Pageviews.Text.Search

/-! Request targets: the path that is asked for, and a query that no route reads. -/
namespace Pageviews.Http

structure Target where
  path : List Char
  query : Option (List Char)
  deriving DecidableEq

namespace Target

/-- The longest target, in bytes. -/
def maxLength : Nat := 65534

def isPathChar (c : Char) : Bool := '!' ≤ c && !"#<>?".toList.contains c && c ≠ '\x60'

def isQueryChar (c : Char) : Bool := '!' ≤ c && !"\"#<>".toList.contains c

/-- Read a target from its path on; a fragment after it is left out. -/
def fromPath? (text : List Char) : Option Target :=
  let text := text.takeWhile (· ≠ '#')
  let path := text.takeWhile (· ≠ '?')
  let query? := (text.dropWhile (· ≠ '?')).tail?
  if path.all isPathChar && query?.all (·.all isQueryChar) then
    some ⟨if path.isEmpty then ['/'] else path, query?⟩
  else none

/-- Whether text names a host in front of a path. -/
def isAuthority (text : List Char) : Bool :=
  !text.isEmpty && text.all fun c => c.isAlphanum || "!$%&'()*+,-.:;=@[]_~".toList.contains c

/-- Read a target: a path, a whole URL, a host alone, or an asterisk. -/
def parse? (raw : String) : Option Target :=
  let text := raw.toList
  if maxLength < raw.utf8ByteSize then none
  else match text with
    | '/' :: _ => fromPath? text
    | ['*'] => some ⟨['*'], none⟩
    | _ =>
      let scheme := text.takeWhile (· ≠ ':')
      match text.dropWhile (· ≠ ':') with
      | ':' :: '/' :: '/' :: rest =>
        let host := rest.takeWhile fun c => !"/?#".toList.contains c
        let path := rest.dropWhile fun c => !"/?#".toList.contains c
        if scheme.isEmpty || !scheme.all Char.isAlphanum || !isAuthority host then none
        else fromPath? path
      | _ => if isAuthority text then some ⟨[], none⟩ else none

end Target
end Pageviews.Http
