import Soap.Url.Path

/-!
# URLs

A URL is a scheme, an optional authority (credentials, host and port), a path, a query and a
fragment. All parts are held in the form in which they are written, so `render` only joins them.
-/

namespace Soap

/-- Where a URL's host is, and on whose behalf it is asked. -/
structure Authority where
  /-- A user name, or a user name and a password with a colon between them. -/
  credentials : List Char
  host : List Char
  /-- The port, unless it is the usual one. -/
  port : Option Nat
deriving DecidableEq, Repr

def Authority.render (a : Authority) : List Char :=
  (if a.credentials.isEmpty then [] else a.credentials ++ ['@']) ++ a.host ++
    (match a.port with
      | some n => ':' :: (toString n).toList
      | none => [])

structure Url where
  scheme : List Char
  authority : Option Authority
  path : List Char
  query : Option (List Char)
  fragment : Option (List Char)
deriving DecidableEq, Repr

namespace Url

/-- How the scheme is treated. -/
def kind (u : Url) : SchemeKind := .ofName u.scheme

/-- Is the path a mere text, relative to which nothing can be located? -/
def isOpaque (u : Url) : Bool := u.authority.isNone && u.path.head? != some '/'

def renderPart (mark : Char) : Option (List Char) → List Char
  | some part => mark :: part
  | none => []

/-- What stands between scheme and path. A path that begins with two slashes is kept from looking
like an authority. -/
def renderAuthority (u : Url) : List Char :=
  match u.authority with
  | some a => '/' :: '/' :: a.render
  | none => if "//".toList.isPrefixOf u.path then ['/', '.'] else []

def render (u : Url) : String :=
  String.ofList (u.scheme ++ [':'] ++ u.renderAuthority ++ u.path ++ renderPart '?' u.query ++
    renderPart '#' u.fragment)

end Url

end Soap
