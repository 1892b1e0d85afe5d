import LinkRouting.Log.Event
import LinkRouting.Regex.Support
import LinkRouting.Text.Cut
import LinkRouting.Text.Slice

namespace LinkRouting.Log

/-! Directives say how much is shown of some events.  `warn` speaks of all events, `router=debug`
of those whose origin begins with `router`, and `router[{url}]=off` of those among them that have
a field `url`.  A word that is no level is the beginning of origins, all of whose events are shown.
-/

structure Directive where
  /-- How the origin of an event has to begin. -/
  start : List Char
  /-- The field that an event has to have. -/
  field : Option String
  /-- Whether the directive only speaks of what happens in certain spans.  Events stand in no
  span. -/
  inSpan : Bool
  verbosity : Nat
deriving DecidableEq, Repr

/-- The verbosity that the name of a level stands for, in either case. -/
def namedVerbosity? (name : String) : Option Nat :=
  match name.toLower with
  | "off" => some 0
  | "error" => some 1
  | "warn" => some 2
  | "info" => some 3
  | "debug" => some 4
  | "trace" => some 5
  | _ => none

/-- The verbosity that digits write. -/
def numberedVerbosity? (digits : List Char) : Option Nat :=
  if digits.isEmpty then none
  else (Text.number? 10 digits).filter fun value => value ≤ Level.trace.verbosity

/-- The verbosity that a name or a number stands for. -/
def verbosity? (text : List Char) : Option Nat :=
  let digits := if text.head? = some '+' then text.tail else text
  numberedVerbosity? digits <|> namedVerbosity? (String.ofList text)

/-- The verbosity behind an equals sign.  Where nothing is written, everything is shown. -/
def assignedVerbosity? (text : List Char) : Option Nat :=
  if text.isEmpty then some Level.trace.verbosity else verbosity? text

/-- A text without the sign that a number may begin with. -/
def unsigned (text : List Char) : List Char :=
  if text.head?.any (· ∈ ['+', '-']) then text.tail else text

/-- Whether `text` is the exponent of a number, from its letter on. -/
def isExponent (text : List Char) : Bool :=
  let digits := unsigned text.tail
  text.head?.any (· ∈ ['e', 'E']) && !digits.isEmpty && digits.all Char.isDigit

/-- Whether `text` is a decimal number, which may be infinite or none. -/
def isNumber (text : List Char) : Bool :=
  let size := unsigned text
  let mantissa := size.takeWhile fun c => c.isDigit || c == '.'
  let exponent := size.drop mantissa.length
  String.ofList (size.map Char.toLower) ∈ ["inf", "infinity", "nan"] ||
    (mantissa.any Char.isDigit && (mantissa.filter (· == '.')).length ≤ 1 &&
      (exponent.isEmpty || isExponent exponent))

/-- What a field may be compared with: a number or a regular expression. -/
def isComparand (text : List Char) : Bool :=
  isNumber text || Regex.wellFormed text

inductive DirectiveError where
  | malformed
  /-- One of its parts would begin or end inside a character. -/
  | torn
deriving DecidableEq, Repr

/-- A place in a directive.  Where the parts of a directive begin and end is found without the
blanks at its ends, but the parts are then taken out of the whole text.  So blanks in front of a
directive move its parts. -/
structure Place where
  /-- What follows, without the blanks at the end. -/
  signs : List Char
  /-- The number of bytes before it, not counting the blanks in front. -/
  offset : Nat
deriving DecidableEq, Repr

namespace Place

def ofChars (text : List Char) : Place :=
  ⟨Text.trimBoth Text.isBlank text, 0⟩

/-- The place of the first of the signs `stops`, or the end. -/
def upTo (place : Place) (stops : List Char) : Place :=
  let before := place.signs.takeWhile fun c => !stops.contains c
  ⟨place.signs.drop before.length, place.offset + Text.byteSize before⟩

/-- The place behind a sign that takes one byte. -/
def next (place : Place) : Place :=
  ⟨place.signs.tail, place.offset + 1⟩

/-- The part of `text` between two places. -/
def part (text : List Char) (start stop : Place) : Except DirectiveError (List Char) :=
  (Text.slice? text start.offset stop.offset).elim (.error .torn) .ok

/-- What `text` holds from a place on. -/
def rest (text : List Char) (start : Place) : Except DirectiveError (List Char) :=
  (Text.dropBytes? start.offset text).elim (.error .torn) .ok

end Place

namespace Directive

def canBegin (c : Char) : Bool :=
  Text.isAlphanumeric c || c ∈ ['-', ':', '_', '[']

/-- The verbosity that `text` gives behind an equals sign. -/
def assigned (text : List Char) (place : Place) : Except DirectiveError Nat := do
  let level ← Place.rest text place
  (assignedVerbosity? level).elim (.error .malformed) .ok

/-- The verbosity that `text` gives behind a closing bracket. -/
def assignedBehind (text : List Char) (place : Place) : Except DirectiveError Nat :=
  match place.signs with
  | [] => .ok Level.trace.verbosity
  | '=' :: _ => assigned text place.next
  | _ => .error .malformed

/-- Reads a field in braces, and whether it is compared with something. -/
def readField (text : List Char) : Except DirectiveError (String × Bool) :=
  if text.isEmpty then .error .malformed
  else
    match Text.cut '=' text with
    | (name, none) => .ok (String.ofList name, false)
    | (name, some comparands) =>
        if isComparand (Text.cut '=' comparands).1 then .ok (String.ofList name, true)
        else .error .malformed

/-- Reads what stands in brackets behind the beginning of origins, and what follows it.  What a
field holds is only looked at in spans. -/
def readBrackets (text start : List Char) (opened : Place) : Except DirectiveError Directive := do
  let mark := opened.upTo [']', '\x7b']
  match mark.signs with
  | [] => .error .malformed
  | ']' :: _ =>
      let _ ← Place.part text opened mark
      let verbosity ← assignedBehind text mark.next
      return ⟨start, none, true, verbosity⟩
  | _ =>
      let span ← Place.part text opened mark
      let brace := mark.next.upTo ['\x7d']
      if brace.signs.isEmpty then .error .malformed
      let written ← Place.part text mark.next brace
      let (field, compared) ← readField written
      if brace.next.signs.head? ≠ some ']' then .error .malformed
      let verbosity ← assignedBehind text brace.next.next
      return ⟨start, some field, compared || !span.isEmpty, verbosity⟩

def ofChars (text : List Char) : Except DirectiveError Directive := do
  let place := Place.ofChars text
  if !place.signs.head?.any canBegin then .error .malformed
  let mark := place.upTo ['=', '[']
  match mark.signs with
  | [] =>
      match verbosity? text with
      | some verbosity => return ⟨[], none, false, verbosity⟩
      | none => return ⟨text, none, false, Level.trace.verbosity⟩
  | '=' :: _ =>
      let start ← Place.part text place mark
      let verbosity ← assigned text mark.next
      return ⟨start, none, false, verbosity⟩
  | _ =>
      let start ← Place.part text place mark
      readBrackets text start mark.next

def speaksOf (directive : Directive) (event : Event) : Bool :=
  !directive.inSpan && directive.start.isPrefixOf event.origin.toList &&
    directive.field.all event.has

/-- Whether `next` is at least as specific as `best`: the longer beginning of origins is the more
specific one, then a directive with a field, and then the greater name of a field. -/
def yieldsTo (best next : Directive) : Bool :=
  best.start.length < next.start.length ||
    (best.start.length == next.start.length &&
      !decide (next.field.getD "" < best.field.getD ""))

end Directive

end LinkRouting.Log
