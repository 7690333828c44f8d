/-!
# Links

A link has a scheme and a path, and perhaps an authority, a query and a fragment. The parts are
kept in their final form, so that writing a link only puts them together. An authority can be
written without a host (`file:///x`); a path without an authority that would look like one is kept
apart by `/.` in front of it.
-/

namespace LinkGuard

/-- Why a text is no link. -/
inductive UrlError where
  | emptyHost
  | invalidDomain
  | invalidPort
  | invalidIpv4
  | invalidIpv6
  | invalidDomainCharacter
  | relativeWithoutBase
  | relativeToOpaque
  deriving DecidableEq, Repr

/-- The text of the error. -/
def UrlError.message : UrlError → String
  | emptyHost => "empty host"
  | invalidDomain => "invalid international domain name"
  | invalidPort => "invalid port number"
  | invalidIpv4 => "invalid IPv4 address"
  | invalidIpv6 => "invalid IPv6 address"
  | invalidDomainCharacter => "invalid domain character"
  | relativeWithoutBase => "relative URL without a base"
  | relativeToOpaque => "relative URL with a cannot-be-a-base base"

/-- A link in its parts. `rooted` says that an authority is written, even an empty one. -/
structure Url where
  scheme : String
  rooted : Bool := false
  username : String := ""
  password : Option String := none
  host : Option String := none
  port : Option Nat := none
  path : String := ""
  query : Option String := none
  fragment : Option String := none
  deriving DecidableEq, Repr

namespace Url

/-- The user name and password in front of a host. -/
def userInfo (url : Url) : String :=
  match url.password with
  | some password => url.username ++ ":" ++ password ++ "@"
  | none => if url.username = "" then "" else url.username ++ "@"

/-- The authority with its two slashes. -/
def authority (url : Url) : String :=
  if url.rooted then
    "//" ++ url.userInfo ++ url.host.getD "" ++
      (match url.port with
      | some port => ":" ++ toString port
      | none => "")
  else if url.path.startsWith "//" then "/."
  else ""

/-- The text of a link. -/
def href (url : Url) : String :=
  url.scheme ++ ":" ++ url.authority ++ url.path ++
    (match url.query with
    | some query => "?" ++ query
    | none => "") ++
    (match url.fragment with
    | some fragment => "#" ++ fragment
    | none => "")

/-- A link whose path is one opaque text, such as `mailto:` links. -/
def isOpaque (url : Url) : Bool :=
  !url.rooted && !url.path.startsWith "/"

end Url

end LinkGuard
