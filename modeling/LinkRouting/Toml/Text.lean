import LinkRouting.Text.Digits
import LinkRouting.Toml.Chars

namespace LinkRouting.Toml

inductive Place where
  /-- Outside of escapes.  Blanks and line ends are dropped after an escaped line end. -/
  | plain (dropping : Bool)
  | escape
  /-- Behind a backslash and blanks, so that a line end has to come. -/
  | lineEscape
  /-- This many hexadecimal digits are owed to a code point. -/
  | code (owed value : Nat)
deriving DecidableEq, Repr

def simpleEscape? (c : Char) : Option Char :=
  match c with
  | 'b' => some '\x08'
  | 't' => some '\t'
  | 'n' => some '\n'
  | 'f' => some '\x0c'
  | 'r' => some '\r'
  | '"' => some '"'
  | '\\' => some '\\'
  | _ => none

/-- The place behind an escape that goes on after its letter. -/
def longEscape? (c : Char) : Option Place :=
  match c with
  | 'u' => some (.code 4 0)
  | 'U' => some (.code 8 0)
  | _ => none

def scalar? (value : Nat) : Option Char :=
  if value.isValidChar then some (Char.ofNat value) else none

/-- Puts a character in front of what was read. -/
def consRead (c : Char) (read : Option (List Char × List Char)) : Option (List Char × List Char) :=
  read.map fun read => (c :: read.1, read.2)

/-- Reads up to the closing quote of a text on one line, and gives what follows. -/
def basicText : Place → List Char → Option (List Char × List Char)
  | _, [] => none
  | .plain _, c :: rest =>
      if c = '"' then some ([], rest)
      else if c = '\\' then basicText .escape rest
      else if isVisible c then consRead c (basicText (.plain false) rest)
      else none
  | .escape, c :: rest =>
      match simpleEscape? c, longEscape? c with
      | some meant, _ => consRead meant (basicText (.plain false) rest)
      | none, some place => basicText place rest
      | none, none => none
  | .lineEscape, _ :: _ => none
  | .code owed value, c :: rest =>
      match Text.digitValue? c with
      | none => none
      | some digit =>
          let value := value * 16 + digit
          if owed = 1 then
            match scalar? value with
            | none => none
            | some meant => consRead meant (basicText (.plain false) rest)
          else basicText (.code (owed - 1) value) rest

/-- Reads up to the three closing quotes of a text on several lines.  Up to two more quotes
before them belong to the text. -/
def longBasicText : Place → List Char → Option (List Char × List Char)
  | _, [] => none
  | .plain _, '"' :: '"' :: '"' :: '"' :: '"' :: rest => some (['"', '"'], rest)
  | .plain _, '"' :: '"' :: '"' :: '"' :: rest => some (['"'], rest)
  | .plain _, '"' :: '"' :: '"' :: rest => some ([], rest)
  | .plain dropping, '\r' :: '\n' :: rest =>
      if dropping then longBasicText (.plain true) rest
      else consRead '\n' (longBasicText (.plain false) rest)
  | .plain dropping, c :: rest =>
      if dropping && (isBlank c || c == '\n') then longBasicText (.plain true) rest
      else if c = '\\' then longBasicText .escape rest
      else if isVisible c || c == '\n' then consRead c (longBasicText (.plain false) rest)
      else none
  | .escape, '\r' :: '\n' :: rest => longBasicText (.plain true) rest
  | .escape, c :: rest =>
      if c = '\n' then longBasicText (.plain true) rest
      else if isBlank c then longBasicText .lineEscape rest
      else
        match simpleEscape? c, longEscape? c with
        | some meant, _ => consRead meant (longBasicText (.plain false) rest)
        | none, some place => longBasicText place rest
        | none, none => none
  | .lineEscape, '\r' :: '\n' :: rest => longBasicText (.plain true) rest
  | .lineEscape, c :: rest =>
      if c = '\n' then longBasicText (.plain true) rest
      else if isBlank c then longBasicText .lineEscape rest
      else none
  | .code owed value, c :: rest =>
      match Text.digitValue? c with
      | none => none
      | some digit =>
          let value := value * 16 + digit
          if owed = 1 then
            match scalar? value with
            | none => none
            | some meant => consRead meant (longBasicText (.plain false) rest)
          else longBasicText (.code (owed - 1) value) rest

/-- Reads up to the closing quote of a text without escapes on one line. -/
def literalText : List Char → Option (List Char × List Char)
  | [] => none
  | c :: rest =>
      if c = '\'' then some ([], rest)
      else if isVisible c then consRead c (literalText rest)
      else none

/-- Reads up to the three closing quotes of a text without escapes on several lines. -/
def longLiteralText : List Char → Option (List Char × List Char)
  | [] => none
  | '\'' :: '\'' :: '\'' :: '\'' :: '\'' :: rest => some (['\'', '\''], rest)
  | '\'' :: '\'' :: '\'' :: '\'' :: rest => some (['\''], rest)
  | '\'' :: '\'' :: '\'' :: rest => some ([], rest)
  | '\r' :: '\n' :: rest => consRead '\n' (longLiteralText rest)
  | c :: rest =>
      if isVisible c || c == '\n' then consRead c (longLiteralText rest) else none

/-- A line end right behind the opening quotes does not count. -/
def dropFirstLineEnd (text : List Char) : List Char :=
  (lineEnd? text).getD text

def shortText : List Char → Option (List Char × List Char)
  | '"' :: rest => basicText (.plain false) rest
  | '\'' :: rest => literalText rest
  | _ => none

def text : List Char → Option (List Char × List Char)
  | '"' :: '"' :: '"' :: rest => longBasicText (.plain false) (dropFirstLineEnd rest)
  | '\'' :: '\'' :: '\'' :: rest => longLiteralText (dropFirstLineEnd rest)
  | other => shortText other

end LinkRouting.Toml
