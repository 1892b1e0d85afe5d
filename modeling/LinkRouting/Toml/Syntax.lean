import LinkRouting.Toml.Scalar
import LinkRouting.Toml.Table
import LinkRouting.Toml.Text

namespace LinkRouting.Toml

/-- Lists and tables may be nested, and keys be made of names, fewer times than this. -/
def depthLimit : Nat := 80

/-- A key as a path and a last name. -/
structure Key where
  path : List String
  name : String
deriving DecidableEq, Repr

inductive Statement where
  | table (key : Key)
  | element (key : Key)
  | assignment (key : Key) (value : Document)

def readName (text : List Char) : Option (String × List Char) :=
  match shortText text with
  | some (name, rest) => some (String.ofList name, rest)
  | none =>
      let name := text.takeWhile isBare
      if name.isEmpty then none else some (String.ofList name, text.drop name.length)

/-- Reads at most `room` names with dots between them, and blanks around those. -/
def readNames : (room : Nat) → List Char → Option (List String × List Char)
  | 0, _ => none
  | room + 1, text =>
      match readName (skipBlank text) with
      | none => none
      | some (name, rest) =>
          match skipBlank rest with
          | '.' :: more => (readNames room more).map fun names => (name :: names.1, names.2)
          | other => some ([name], other)

def readKey (text : List Char) : Option (Key × List Char) :=
  match readNames (depthLimit - 1) text with
  | none => none
  | some (names, rest) => names.getLast?.map fun name => (⟨names.dropLast, name⟩, rest)

mutual

/-- Reads a value, which may hold others `depth` levels deep.  The `fuel` has to exceed the
length of the text three times over. -/
def readValue : (fuel depth : Nat) → List Char → Option (Document × List Char)
  | 0, _, _ => none
  | fuel + 1, depth, input =>
      match input with
      | '[' :: rest =>
          match depth with
          | 0 => none
          | depth + 1 =>
              (readItems fuel depth (skipLines false rest)).map fun read => (.list read.1, read.2)
      | '\x7b' :: rest =>
          match depth with
          | 0 => none
          | depth + 1 =>
              match skipBlank rest with
              | '\x7d' :: rest => some (.table [], rest)
              | rest =>
                  (readPairs fuel depth [] rest).map fun read =>
                    (.table (documentMembers read.1), read.2)
      | '"' :: _ | '\'' :: _ => (text input).map fun read => (.text (String.ofList read.1), read.2)
      | _ =>
          let (first, rest) := word input
          (scalar first).map fun value => (value, rest)

def readItems : (fuel depth : Nat) → List Char → Option (List Document × List Char)
  | 0, _, _ => none
  | _, _, ']' :: rest => some ([], rest)
  | fuel + 1, depth, input =>
      match readValue fuel depth input with
      | none => none
      | some (value, rest) =>
          match skipLines false rest with
          | ']' :: rest => some ([value], rest)
          | ',' :: rest =>
              (readItems fuel depth (skipLines false rest)).map fun read =>
                (value :: read.1, read.2)
          | _ => none

/-- Adds the pairs of a table in braces to `members`, up to the closing brace. -/
def readPairs : (fuel depth : Nat) → Members → List Char → Option (Members × List Char)
  | 0, _, _, _ => none
  | fuel + 1, depth, members, input =>
      match readKey input with
      | some (key, '=' :: rest) =>
          match readValue fuel depth (skipBlank rest) with
          | none => none
          | some (value, rest) =>
              match members.assign key.path key.name value with
              | none => none
              | some members =>
                  match skipBlank rest with
                  | '\x7d' :: rest => some (members, rest)
                  | ',' :: rest => readPairs fuel depth members rest
                  | _ => none
      | _ => none

end

def readStatement (input : List Char) : Option (Statement × List Char) :=
  match input with
  | '[' :: '[' :: rest =>
      match readKey rest with
      | some (key, ']' :: ']' :: rest) => (finishLine? rest).map fun rest => (.element key, rest)
      | _ => none
  | '[' :: rest =>
      match readKey rest with
      | some (key, ']' :: rest) => (finishLine? rest).map fun rest => (.table key, rest)
      | _ => none
  | _ =>
      match readKey input with
      | some (key, '=' :: rest) =>
          match readValue (3 * input.length + 3) (depthLimit - 1) (skipBlank rest) with
          | none => none
          | some (value, rest) =>
              (finishLine? rest).map fun rest => (.assignment key value, rest)
      | _ => none

/-- Reads all statements.  The `fuel` has to exceed the length of the text. -/
def readStatements : (fuel : Nat) → List Char → Option (List Statement)
  | 0, _ => none
  | fuel + 1, input =>
      match skipLines false input with
      | [] => some []
      | input =>
          match readStatement input with
          | none => none
          | some (statement, rest) => (readStatements fuel rest).map (statement :: ·)

end LinkRouting.Toml
