import LinkRouting.Regex.Members
import LinkRouting.Text.Alphanumeric

namespace LinkRouting.Regex

/-- Whether letters turn `flag` on, or off if they stand behind a dash. -/
def flagState? (letters : List Char) (flag : Char) : Option Bool :=
  if letters.contains flag then some ((letters.takeWhile (· ≠ '-')).contains flag) else none

/-- Whether letters may change how a group is read. -/
def flagsAllowed (letters : List Char) : Bool :=
  decide letters.Nodup && letters.all ("imsUuxR-".toList.contains ·) &&
    letters.getLast? != some '-'

/-- Whether a group may have a name. -/
def nameAllowed : List Char → Bool
  | [] => false
  | first :: rest =>
      (first == '_' || Text.isAlphabetic first) &&
        rest.all fun c => Text.isAlphanumeric c || c ∈ ['_', '.', '[', ']']

inductive Opening where
  /-- Letters that hold up to the end of the group around them. -/
  | flags (letters : List Char)
  | group (name : Option (List Char)) (letters : List Char)
deriving DecidableEq, Repr

namespace Opening

def named? (text : List Char) : Option (Opening × List Char) :=
  let name := text.takeWhile (· ≠ '>')
  match text.drop name.length with
  | _ :: rest => if nameAllowed name then some (group (some name) [], rest) else none
  | [] => none

def lettered? (text : List Char) : Option (Opening × List Char) :=
  let letters := text.takeWhile fun c => c ≠ ':' && c ≠ ')'
  if flagsAllowed letters then
    match text.drop letters.length with
    | ':' :: rest => some (group none letters, rest)
    | _ :: rest => if letters.isEmpty then none else some (flags letters, rest)
    | [] => none
  else none

def ofChars? : List Char → Option (Opening × List Char)
  | '?' :: 'P' :: '<' :: rest => named? rest
  | '?' :: '<' :: rest => named? rest
  | '?' :: rest => lettered? rest
  | rest => some (group none [], rest)

end Opening

/-- What stands before a closing parenthesis, given its branches and the items of the last branch,
each from the last to the first. -/
def close (branches items : List Regex) : Regex :=
  ofBranches (ofItems items.reverse :: branches).reverse

/-- Whether a repetition may follow. -/
def repeatable : Regex → Bool
  | flags _ => false
  | _ => true

/-- Whether a sign repeats what stands before it.  A question mark right behind it only says how
many times are tried first. -/
def isRepetition (c : Char) : Bool :=
  c ∈ ['*', '+', '?']

def behindLazy (text : List Char) : List Char :=
  if text.head? = some '?' then text.tail else text

/-- Reads up to the end of a group or of the text.  No more than `fuel` steps are taken.  Numbers
of repetitions cannot be written: there is no closing brace. -/
def readFrom (fuel : Nat) (extended : Bool) (branches items : List Regex) (text : List Char) :
    Option (Regex × List Char) :=
  match fuel with
  | 0 => none
  | fuel + 1 =>
      match skip extended text with
      | [] => some (close branches items, [])
      | ')' :: rest => some (close branches items, ')' :: rest)
      | '|' :: rest => readFrom fuel extended (ofItems items.reverse :: branches) [] rest
      | '(' :: rest =>
          match Opening.ofChars? (skip extended rest) with
          | none => none
          | some (.flags letters, rest) =>
              readFrom fuel ((flagState? letters 'x').getD extended) branches
                (flags letters :: items) rest
          | some (.group name letters, rest) =>
              match readFrom fuel ((flagState? letters 'x').getD extended) [] [] rest with
              | some (body, ')' :: rest) =>
                  readFrom fuel extended branches (group name letters body :: items) rest
              | _ => none
      | '[' :: rest =>
          match Members.read? extended rest with
          | none => none
          | some (negated, members, rest) =>
              readFrom fuel extended branches (bracketed negated members :: items) rest
      | '\\' :: rest =>
          match Escape.ofChars? extended rest with
          | none => none
          | some (escape, rest) =>
              readFrom fuel extended branches (escape.toRegex :: items) rest
      | '\x7b' :: _ => none
      | '.' :: rest => readFrom fuel extended branches (any :: items) rest
      | '^' :: rest | '$' :: rest => readFrom fuel extended branches (edge :: items) rest
      | c :: rest =>
          if isRepetition c then
            match items with
            | [] => none
            | item :: items =>
                if item.repeatable then
                  readFrom fuel extended branches (repeated item :: items) (behindLazy rest)
                else none
          else readFrom fuel extended branches (literal ⟨c, false⟩ :: items) rest

def ofChars? (text : List Char) : Option Regex :=
  match readFrom (text.length + 1) false [] [] text with
  | some (regex, []) => some regex
  | _ => none

end LinkRouting.Regex
