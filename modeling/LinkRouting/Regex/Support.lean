import LinkRouting.Regex.Parse

namespace LinkRouting.Regex

/-! Which regular expressions can be compared with a text.  No tables of characters are at hand,
so what needs them is refused: folding the case of characters beyond ASCII, and telling digits,
blanks and words beyond ASCII.  Outside of Unicode, all that is matched still has to be text, so
single bytes beyond ASCII are refused, and so is everything that might match one.
-/

/-- How a place in an expression is read. -/
structure Flags where
  ignoreCase : Bool
  unicode : Bool
deriving DecidableEq, Repr

namespace Flags

def standard : Flags :=
  ⟨false, true⟩

/-- What letters make of flags. -/
def change (flags : Flags) (letters : List Char) : Flags :=
  ⟨(flagState? letters 'i').getD flags.ignoreCase, (flagState? letters 'u').getD flags.unicode⟩

end Flags

/-- How deep expressions may be nested. -/
def depthLimit : Nat := 250

def Literal.supported (flags : Flags) (literal : Literal) : Bool :=
  if flags.unicode then !flags.ignoreCase
  else !literal.asByte || literal.char.toNat < 0x80

namespace Members

def literalSupported (flags : Flags) (literal : Literal) : Bool :=
  if flags.unicode then !flags.ignoreCase else literal.char.toNat < 0x80

mutual
def supported (flags : Flags) : Members → Bool
  | literal member => literalSupported flags member
  | range first last => literalSupported flags first && literalSupported flags last
  | named negated => if flags.unicode then !flags.ignoreCase else !negated
  | category negated => !flags.unicode && !negated
  | bracketed negated members => members.supported flags && (flags.unicode || !negated)
  | union parts => allSupported flags parts
  | combined left right => left.supported flags && right.supported flags

def allSupported (flags : Flags) : List Members → Bool
  | [] => true
  | part :: rest => part.supported flags && allSupported flags rest
end

end Members

mutual
/-- How an expression leaves the flags for what follows in its group, if it is supported. -/
def flagsBehind? (flags : Flags) : Regex → Option Flags
  | literal char => if char.supported flags then some flags else none
  | any => if flags.unicode then some flags else none
  | edge => some flags
  | wordEdge => if flags.unicode then none else some flags
  | category negated => if flags.unicode || negated then none else some flags
  | bracketed negated members =>
      if members.supported flags && (flags.unicode || !negated) then some flags else none
  | .flags letters => some (flags.change letters)
  | group _ letters body => (body.flagsBehind? (flags.change letters)).map fun _ => flags
  | repeated body => body.flagsBehind? flags
  | sequence items => flagsBehindAll? flags items
  | choice branches => flagsBehindAll? flags branches

def flagsBehindAll? (flags : Flags) : List Regex → Option Flags
  | [] => some flags
  | item :: rest => (item.flagsBehind? flags).bind fun flags => flagsBehindAll? flags rest
end

/-- Whether an expression can be compared with a text. -/
def supported (regex : Regex) : Bool :=
  regex.depth ≤ depthLimit && decide regex.names.Nodup &&
    (regex.flagsBehind? .standard).isSome

def wellFormed (text : List Char) : Bool :=
  (ofChars? text).any supported

end LinkRouting.Regex
