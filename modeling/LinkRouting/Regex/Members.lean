import LinkRouting.Regex.Escape

namespace LinkRouting.Regex

namespace Members

def classNames : List String :=
  ["alnum", "alpha", "ascii", "blank", "cntrl", "digit", "graph", "lower", "print", "punct",
    "space", "upper", "word", "xdigit"]

/-- Reads the name of a class behind its bracket, and whether the class is negated.  What is no
name is the beginning of another class. -/
def named? : List Char → Option (Bool × List Char)
  | ':' :: text =>
      let negated := text.head? == some '^'
      let text := if negated then text.tail else text
      let name := text.takeWhile (· ≠ ':')
      match text.drop name.length with
      | ':' :: ']' :: rest =>
          if String.ofList name ∈ classNames then some (negated, rest) else none
      | _ => none
  | _ => none

def single? (extended : Bool) : List Char → Option (Escape × List Char)
  | [] => none
  | '\\' :: rest => Escape.ofChars? extended rest
  | c :: rest => some (.literal ⟨c, false⟩, rest)

/-- The character behind a dash, by which it is told whether the dash makes a range.  Blanks are
left out, and so is the sign of a comment, but not the comment. -/
def behindDash? (extended : Bool) (text : List Char) : Option Char :=
  if extended then
    match text.dropWhile Text.isBlank with
    | '#' :: rest => (rest.dropWhile Text.isBlank).head?
    | rest => rest.head?
  else text.head?

/-- The range between two characters, which must not go backwards. -/
def range? : Escape → Escape → Option Members
  | .literal first, .literal last =>
      if first.char ≤ last.char then some (range first last) else none
  | _, _ => none

def part? (extended : Bool) (text : List Char) : Option (Members × List Char) :=
  match single? extended text with
  | none => none
  | some (first, rest) =>
      match skip extended rest with
      | '-' :: rest =>
          if behindDash? extended rest ∈ [some ']', some '-'] then
            first.member?.map (·, '-' :: rest)
          else
            match single? extended (skip extended rest) with
            | none => none
            | some (last, rest) => (range? first last).map (·, rest)
      | rest => first.member?.map (·, rest)

/-- What stands before a doubled sign or a closing bracket, given what it is joined with and its
own parts from the last to the first. -/
def close (before : Option Members) (parts : List Members) : Members :=
  match before with
  | none => ofParts parts.reverse
  | some before => combined before (ofParts parts.reverse)

/-- Whether a class is negated, and what follows the caret. -/
def splitCaret (extended : Bool) (text : List Char) : Bool × List Char :=
  match skip extended text with
  | '^' :: rest => (true, rest)
  | rest => (false, rest)

/-- Reads the rest of a class up to its closing bracket.  At the beginning dashes stand for
themselves, and so does a bracket in the first place.  No more than `fuel` steps are taken. -/
def readFrom (extended : Bool) (fuel : Nat) (leading : Bool) (before : Option Members)
    (parts : List Members) (text : List Char) : Option (Members × List Char) :=
  match fuel with
  | 0 => none
  | fuel + 1 =>
      match skip extended text with
      | [] => none
      | c :: rest =>
          if leading && (c == '-' || (c == ']' && parts.isEmpty)) then
            readFrom extended fuel (c == '-') before (literal ⟨c, false⟩ :: parts) rest
          else if c = ']' then some (close before parts, rest)
          else if c = '[' then
            match named? rest with
            | some (negated, rest) =>
                readFrom extended fuel false before (named negated :: parts) rest
            | none =>
                let (negated, rest) := splitCaret extended rest
                match readFrom extended fuel true none [] rest with
                | none => none
                | some (members, rest) =>
                    readFrom extended fuel false before (bracketed negated members :: parts) rest
          else if c ∈ ['&', '-', '~'] ∧ rest.head? = some c then
            readFrom extended fuel false (some (close before parts)) [] rest.tail
          else
            match part? extended (c :: rest) with
            | none => none
            | some (part, rest) => readFrom extended fuel false before (part :: parts) rest

/-- Reads a class behind its opening bracket, and whether it is negated. -/
def read? (extended : Bool) (text : List Char) : Option (Bool × Members × List Char) :=
  let (negated, rest) := splitCaret extended text
  (readFrom extended (rest.length + 1) true none [] rest).map (negated, ·)

end Members

end LinkRouting.Regex
