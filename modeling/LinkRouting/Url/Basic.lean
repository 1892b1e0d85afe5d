namespace LinkRouting

inductive UrlError where
  | noScheme
  | emptyHost
  | invalidPort
  | invalidIpv4
  | invalidIpv6
  /-- A character that no host may hold. -/
  | invalidHostCharacter
  /-- A host that is no domain name, in a scheme whose hosts are domain names. -/
  | invalidDomainName
deriving DecidableEq, Repr

namespace UrlError

def message : UrlError → String
  | noScheme => "relative URL without a base"
  | emptyHost => "empty host"
  | invalidPort => "invalid port number"
  | invalidIpv4 => "invalid IPv4 address"
  | invalidIpv6 => "invalid IPv6 address"
  | invalidHostCharacter => "invalid domain character"
  | invalidDomainName => "invalid international domain name"

end UrlError

/-- What stands between `//` and the path.  An empty `host` is one that is not there. -/
structure Authority where
  credentials : List Char
  host : List Char
  port : Option Nat
deriving DecidableEq, Repr

/-- A URL with every part escaped and normalized.  The parts hold no delimiters: `query` and
`fragment` come without their `?` and `#`. -/
structure Url where
  scheme : String
  authority : Option Authority
  path : List Char
  query : Option (List Char)
  fragment : Option (List Char)
deriving DecidableEq, Repr

namespace Authority

def render (authority : Authority) : List Char :=
  (if authority.credentials.isEmpty then [] else authority.credentials ++ ['@']) ++
    authority.host ++
    match authority.port with
    | none => []
    | some port => ':' :: (toString port).toList

end Authority

namespace Url

def host? (url : Url) : Option (List Char) :=
  (url.authority.map (·.host)).filter fun host => !host.isEmpty

/-- The text of a URL.  A path that begins with two slashes is kept from reading as an
authority. -/
def render (url : Url) : String :=
  let start :=
    match url.authority with
    | some authority => '/' :: '/' :: authority.render
    | none => if ['/', '/'].isPrefixOf url.path then ['/', '.'] else []
  let query := url.query.elim [] ('?' :: ·)
  let fragment := url.fragment.elim [] ('#' :: ·)
  url.scheme ++ ":" ++ String.ofList (start ++ url.path ++ query ++ fragment)

end Url

end LinkRouting
