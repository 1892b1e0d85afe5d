import LinkRouting.Text.Blank
import LinkRouting.Text.Cut

namespace LinkRouting.Url

/-- How the rest of a URL is to be read. -/
inductive SchemeKind where
  | file
  /-- Special, and not a file. -/
  | network
  | other
deriving DecidableEq, Repr

namespace SchemeKind

def ofScheme (scheme : String) : SchemeKind :=
  if scheme = "file" then .file
  else if scheme ∈ ["http", "https", "ws", "wss", "ftp"] then .network
  else .other

/-- A special URL always has an authority and a path, and a backslash in it means a slash. -/
def special : SchemeKind → Bool
  | .other => false
  | _ => true

def slash (kind : SchemeKind) (c : Char) : Bool :=
  c == '/' || (kind.special && c == '\\')

def endsAuthority (kind : SchemeKind) (c : Char) : Bool :=
  kind.slash c || c == '?' || c == '#'

end SchemeKind

/-- The port that goes without saying. -/
def defaultPort? (scheme : String) : Option Nat :=
  if scheme = "http" ∨ scheme = "ws" then some 80
  else if scheme = "https" ∨ scheme = "wss" then some 443
  else if scheme = "ftp" then some 21
  else none

def isSchemeChar (c : Char) : Bool :=
  c.isAlphanum || c == '+' || c == '-' || c == '.'

/-- The scheme in lower case, and what follows its colon.  Breaks in a scheme do not count. -/
def splitScheme? (text : List Char) : Option (String × List Char) :=
  match Text.cut ':' text with
  | (before, some rest) =>
      let name := Text.withoutBreaks before
      if name.head?.any Char.isAlpha && name.all isSchemeChar then
        some (String.ofList (name.map Char.toLower), rest)
      else none
  | _ => none

end LinkRouting.Url
