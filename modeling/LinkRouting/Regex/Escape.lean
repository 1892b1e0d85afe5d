import LinkRouting.Regex.Basic
import LinkRouting.Text.Blank
import LinkRouting.Text.Digits

namespace LinkRouting.Regex

/-- What follows blanks and comments, of which the first may be left already.  A comment goes from a
number sign to the end of the line. -/
def behindBlanks (inComment : Bool) : List Char → List Char
  | [] => []
  | c :: rest =>
      if inComment then behindBlanks (c != '\n') rest
      else if Text.isBlank c then behindBlanks false rest
      else if c = '#' then behindBlanks true rest
      else c :: rest

/-- What is written next. -/
def skip (extended : Bool) (text : List Char) : List Char :=
  if extended then behindBlanks false text else text

/-- What a backslash and the characters behind it write. -/
inductive Escape where
  | literal (char : Literal)
  | category (negated : Bool)
  | edge
  | wordEdge
deriving DecidableEq, Repr

namespace Escape

def digits? (extended : Bool) : Nat → List Char → Option (List Char × List Char)
  | 0, text => some ([], text)
  | count + 1, text =>
      match skip extended text with
      | [] => none
      | c :: rest =>
          if (Text.digitValue? c).isSome then
            (digits? extended count rest).map fun (digits, rest) => (c :: digits, rest)
          else none

/-- Reads a character that is written by its number. -/
def numbered? (extended : Bool) (count : Nat) (text : List Char) : Option (Escape × List Char) :=
  match digits? extended count text with
  | none => none
  | some (digits, rest) =>
      match (Text.number? 16 digits).filter fun code => decide code.isValidChar with
      | none => none
      | some code => some (literal ⟨Char.ofNat code, count == 2⟩, rest)

/-- Whether a backslash makes `c` stand for itself. -/
def standsForItself (c : Char) : Bool :=
  c.toNat < 0x80 && !c.isAlphanum

/-- Reads what stands behind a backslash.  Properties of characters cannot be named. -/
def ofChars? (extended : Bool) : List Char → Option (Escape × List Char)
  | [] => none
  | c :: rest =>
      match c with
      | 'x' => numbered? extended 2 rest
      | 'u' => numbered? extended 4 rest
      | 'U' => numbered? extended 8 rest
      | 'd' | 's' | 'w' => some (category false, rest)
      | 'D' | 'S' | 'W' => some (category true, rest)
      | 'A' | 'z' => some (edge, rest)
      | 'b' | 'B' | '<' | '>' => some (wordEdge, rest)
      | 'a' => some (literal ⟨'\x07', false⟩, rest)
      | 't' => some (literal ⟨'\t', false⟩, rest)
      | 'n' => some (literal ⟨'\n', false⟩, rest)
      | 'v' => some (literal ⟨'\x0b', false⟩, rest)
      | 'f' => some (literal ⟨'\x0c', false⟩, rest)
      | 'r' => some (literal ⟨'\r', false⟩, rest)
      | _ => if standsForItself c then some (literal ⟨c, false⟩, rest) else none

def member? : Escape → Option Members
  | literal char => some (.literal char)
  | category negated => some (.category negated)
  | edge | wordEdge => none

def toRegex : Escape → Regex
  | literal char => .literal char
  | category negated => .category negated
  | edge => .edge
  | wordEdge => .wordEdge

end Escape

end LinkRouting.Regex
