import LinkRouting.Text.Percent
import LinkRouting.Url.Scheme

namespace LinkRouting.Url

/-- An ASCII character that is no control character. -/
def isPlain (c : Char) : Bool :=
  0x20 ≤ c.toNat && c.toNat ≤ 0x7E

def keepInFragment (c : Char) : Bool :=
  isPlain c && !(c ∈ [' ', '"', '<', '>', '\x60'])

def keepInPath (c : Char) : Bool :=
  keepInFragment c && !(c ∈ ['#', '?', '\x7b', '\x7d'])

def keepInCredentials (c : Char) : Bool :=
  keepInPath c && !(c ∈ ['/', ':', ';', '=', '@', '[', '\\', ']', '^', '|'])

def keepInQuery (kind : SchemeKind) (c : Char) : Bool :=
  isPlain c && !(c ∈ [' ', '"', '#', '<', '>']) && !(kind.special && c == '\'')

def encodeFragment (text : List Char) : List Char :=
  Text.Percent.encode keepInFragment text

def encodePath (text : List Char) : List Char :=
  Text.Percent.encode keepInPath text

def encodeCredentials (text : List Char) : List Char :=
  Text.Percent.encode keepInCredentials text

def encodeQuery (kind : SchemeKind) (text : List Char) : List Char :=
  Text.Percent.encode (keepInQuery kind) text

/-- For paths without slashes and for hosts that are no domain names. -/
def encodeControls (text : List Char) : List Char :=
  Text.Percent.encode isPlain text

end LinkRouting.Url
