import LinkRouting.Url.Basic
import LinkRouting.Url.Escaping
import LinkRouting.Url.Ipv4
import LinkRouting.Url.Ipv6

namespace LinkRouting.Url

def bracketedHost (text : List Char) : Except UrlError (List Char) :=
  if text.getLast? = some ']' then
    match Ipv6.parse? (text.drop 1).dropLast with
    | some pieces => .ok ('[' :: (Ipv6.render pieces ++ [']']))
    | none => .error .invalidIpv6
  else .error .invalidIpv6

/-- Characters that no domain name may hold, escaped or not. -/
def forbiddenInDomain (c : Char) : Bool :=
  !isPlain c || c == ' ' || c ∈ "%#/:<>?@[\\]^|".toList

/-- How the names of hosts are written in ASCII, if they can be.  It takes tables of all scripts to
tell that, so it is left open here. -/
class Names where
  toAscii? : List Char → Option (List Char)

/-- Names in ASCII are the same in any case.  Others are not known, and no label is looked into. -/
instance asciiNames : Names where
  toAscii? name :=
    if name.all fun c => c.toNat < 128 then some (name.map Char.toLower) else none

/-- Reads a host of a special scheme.  Escapes are undone before anything else. -/
def domainHost [Names] (text : List Char) : Except UrlError (List Char) :=
  if text.head? = some '[' then bracketedHost text
  else
    match Names.toAscii? (Text.Percent.decode text) with
    | none => .error .invalidDomainName
    | some name =>
        if name.any forbiddenInDomain then .error .invalidDomainName
        else if name.isEmpty then .error .emptyHost
        else if Ipv4.endsInNumber name then
          match Ipv4.parse? name with
          | some address => .ok (Ipv4.render address)
          | none => .error .invalidIpv4
        else .ok name

/-- Characters that the host of another scheme may not hold. -/
def forbiddenInHost (c : Char) : Bool :=
  c == '\x00' || c ∈ "\t\n\r #/:<>?@[\\]^|".toList

/-- Reads a host of a scheme that is not special.  It keeps its case. -/
def freeHost (text : List Char) : Except UrlError (List Char) :=
  if text.head? = some '[' then bracketedHost text
  else if text.any forbiddenInHost then .error .invalidHostCharacter
  else .ok (encodeControls text)

end LinkRouting.Url
