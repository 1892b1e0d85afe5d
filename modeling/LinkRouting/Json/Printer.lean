import LinkRouting.Json

namespace LinkRouting.Json

def escapeChar (c : Char) : List Char :=
  match c with
  | '"' => ['\\', '"']
  | '\\' => ['\\', '\\']
  | '\x08' => ['\\', 'b']
  | '\x0c' => ['\\', 'f']
  | '\n' => ['\\', 'n']
  | '\r' => ['\\', 'r']
  | '\t' => ['\\', 't']
  | c =>
      if c.toNat < 0x10 then "\\u000".toList ++ Nat.toDigits 16 c.toNat
      else if c.toNat < 0x20 then "\\u00".toList ++ Nat.toDigits 16 c.toNat
      else [c]

def renderText (text : String) : String :=
  String.ofList ('"' :: (text.toList.flatMap escapeChar ++ ['"']))

/-- The digits of a number with `places` of them behind the point, of which there is at least
one in front of it. -/
def renderDecimal (mantissa places : Nat) : String :=
  let digits := Nat.toDigits 10 mantissa
  let padded := List.replicate (places + 1 - digits.length) '0' ++ digits
  let whole := padded.length - places
  String.ofList (padded.take whole ++ '.' :: padded.drop whole)

def Number.render : Number → String
  | integer value => toString value
  | decimal mantissa places =>
      (if mantissa < 0 then "-" else "") ++ renderDecimal mantissa.natAbs places

/-- Puts pieces between brackets with commas between them. -/
def enclose (opening closing : String) (pieces : List String) : String :=
  opening ++ ",".intercalate pieces ++ closing

mutual

/-- The text on one line. -/
def render : Json → String
  | .null => "null"
  | .boolean value => toString value
  | .number value => value.render
  | .text value => renderText value
  | .list items => enclose "[" "]" (renderItems items)
  | .object members => enclose "\x7b" "\x7d" (renderMembers members)

def renderItems : List Json → List String
  | [] => []
  | item :: rest => item.render :: renderItems rest

def renderMembers : List (String × Json) → List String
  | [] => []
  | (name, value) :: rest => (renderText name ++ ":" ++ value.render) :: renderMembers rest

end

/-- Puts pieces between brackets, each on a line of its own at `margin` and two more spaces.
Where there are none the brackets stand together. -/
def encloseLines (margin opening closing : String) (pieces : List String) : String :=
  if pieces.isEmpty then opening ++ closing
  else
    opening ++ ",".intercalate (pieces.map fun piece => "\n" ++ margin ++ "  " ++ piece) ++
      "\n" ++ margin ++ closing

mutual

/-- The text on several lines, the first of which begins at `margin`. -/
def layout (margin : String) : Json → String
  | .list items => encloseLines margin "[" "]" (layoutItems (margin ++ "  ") items)
  | .object members =>
      encloseLines margin "\x7b" "\x7d" (layoutMembers (margin ++ "  ") members)
  | .null => "null"
  | .boolean value => toString value
  | .number value => value.render
  | .text value => renderText value

def layoutItems (margin : String) : List Json → List String
  | [] => []
  | item :: rest => item.layout margin :: layoutItems margin rest

def layoutMembers (margin : String) : List (String × Json) → List String
  | [] => []
  | (name, value) :: rest =>
      (renderText name ++ ": " ++ value.layout margin) :: layoutMembers margin rest

end

/-- The text on as many lines as there are values in `json`, and more. -/
def pretty (json : Json) : String :=
  json.layout ""

end LinkRouting.Json
