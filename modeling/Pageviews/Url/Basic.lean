import Pageviews.Url.Host

/-! URLs, and the text of their parts. -/
namespace Pageviews

/-- Who is addressed: credentials, a host and a port. -/
structure Url.Authority where
  username : List Char
  password : List Char
  host : Option Url.Host
  port : Option Nat

/-- An absolute URL. Its parts hold the encoded text without the marks that set them off. -/
structure Url where
  scheme : List Char
  authority : Option Url.Authority
  path : List Char
  query : Option (List Char)
  fragment : Option (List Char)

namespace Url

def Authority.credentials (a : Authority) : List Char :=
  let password := if a.password = [] then [] else ':' :: a.password
  let credentials := a.username ++ password
  if credentials = [] then [] else credentials ++ ['@']

def Authority.toText (a : Authority) : List Char :=
  a.credentials ++ ((a.host.map Host.toText).getD []) ++
    match a.port with
    | some port => ':' :: (toString port).toList
    | none => []

def hostText (u : Url) : List Char :=
  ((u.authority.bind (·.host)).map Host.toText).getD []

/-- The whole text. A path that looks like an authority is set off by a dot. -/
def toText (u : Url) : List Char :=
  u.scheme ++ [':'] ++
    (match u.authority with
      | some authority => '/' :: '/' :: authority.toText
      | none => if ['/', '/'].isPrefixOf u.path then ['/', '.'] else []) ++
    u.path ++ ((u.query.map ('?' :: ·)).getD []) ++ ((u.fragment.map ('#' :: ·)).getD [])

end Url
end Pageviews
