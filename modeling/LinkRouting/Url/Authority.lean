import LinkRouting.Url.Host

namespace LinkRouting.Url

/-- The text before and after the last `@`. -/
def splitCredentials : List Char → Option (List Char × List Char)
  | [] => none
  | c :: rest =>
      match splitCredentials rest with
      | some (before, after) => some (c :: before, after)
      | none => if c = '@' then some ([], rest) else none

/-- Escapes a name and a password.  The password begins behind the first colon, and neither the
colon nor an empty password is kept alone. -/
def normalCredentials (text : List Char) : List Char :=
  let name := text.takeWhile (· ≠ ':')
  let password := text.drop (name.length + 1)
  encodeCredentials name ++ if password.isEmpty then [] else ':' :: encodeCredentials password

/-- The host, and what follows it from the colon of the port on. -/
def splitHost (bracketed : Bool) : List Char → List Char × List Char
  | [] => ([], [])
  | c :: rest =>
      if c = ':' ∧ bracketed = false then ([], c :: rest)
      else
        let inside := c == '[' || (bracketed && c != ']')
        let split := splitHost inside rest
        (c :: split.1, split.2)

/-- Reads a port below 65536 and gives what follows its digits.  A backslash may follow even
where it is no slash. -/
def readPort (text : List Char) : Except UrlError (Option Nat × List Char) :=
  let digits := text.takeWhile Char.isDigit
  let rest := text.drop digits.length
  match Text.number? 10 digits with
  | none => .error .invalidPort
  | some port =>
      if 65535 < port ∨ ¬ (rest.head?.all (· == '\\')) then .error .invalidPort
      else .ok (if digits.isEmpty then none else some port, rest)

/-- Reads an authority of a scheme that is no file.  `followed` tells whether anything stands
behind it.  What the port leaves of `text` belongs to the path. -/
def readAuthority [Names] (kind : SchemeKind) (scheme : String) (text : List Char)
    (followed : Bool) : Except UrlError (Authority × List Char) := do
  let (credentials, address) := (splitCredentials text).getD ([], text)
  if text = ['@'] ∧ followed = true then
    throw .emptyHost
  let (hostText, portText) := splitHost false address
  if kind.special = true ∧ hostText.isEmpty then
    throw .emptyHost
  let host ← if kind.special then domainHost hostText else freeHost hostText
  if host.isEmpty ∧ ¬ portText.isEmpty then
    throw .emptyHost
  let (port, rest) ← if portText.isEmpty then pure (none, []) else readPort (portText.drop 1)
  let credentials := normalCredentials credentials
  if host.isEmpty ∧ ¬ credentials.isEmpty then
    throw .emptyHost
  return (⟨credentials, host, if port = defaultPort? scheme then none else port⟩, rest)

end LinkRouting.Url
