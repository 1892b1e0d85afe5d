namespace LinkRouting

namespace Regex

structure Literal where
  char : Char
  /-- Whether two hexadecimal digits write it, which may mean a single byte. -/
  asByte : Bool
deriving DecidableEq, Repr

/-- The members of a class in brackets. -/
inductive Members where
  | literal (member : Literal)
  | range (first last : Literal)
  /-- A class that is known by its name in brackets and colons. -/
  | named (negated : Bool)
  /-- A class that is known by a letter: digits, blanks or the characters of words. -/
  | category (negated : Bool)
  | bracketed (negated : Bool) (members : Members)
  | union (parts : List Members)
  /-- What two classes have in common, or what only one of them has. -/
  | combined (left right : Members)
deriving Repr

end Regex

/-- Regular expressions as they are written.  What they match is not told here. -/
inductive Regex where
  | literal (char : Regex.Literal)
  | any
  /-- The beginning or the end of a line or of the text. -/
  | edge
  /-- A place that is or is not the beginning or the end of a word. -/
  | wordEdge
  | category (negated : Bool)
  | bracketed (negated : Bool) (members : Regex.Members)
  /-- Letters that change how the rest of the group is read. -/
  | flags (letters : List Char)
  | group (name : Option (List Char)) (letters : List Char) (body : Regex)
  | repeated (body : Regex)
  | sequence (items : List Regex)
  | choice (branches : List Regex)
deriving Repr

namespace Regex

namespace Members

/-- One after another, where a single part is just that part. -/
def ofParts : List Members → Members
  | [part] => part
  | parts => union parts

mutual
/-- How many classes stand inside of one another, unions and combinations included. -/
def depth : Members → Nat
  | literal _ | range _ _ | named _ | category _ => 0
  | bracketed _ members => members.depth + 1
  | union parts => unionDepth parts
  | combined left right => max left.depth right.depth + 1

/-- The depth of a union.  One that is empty is no class of its own. -/
def unionDepth : List Members → Nat
  | [] => 0
  | part :: rest => max (part.depth + 1) (unionDepth rest)
end

end Members

/-- One after another, where a single item is just that item. -/
def ofItems : List Regex → Regex
  | [item] => item
  | items => sequence items

def ofBranches : List Regex → Regex
  | [branch] => branch
  | branches => choice branches

mutual
/-- How many expressions stand inside of one another.  Single characters are none, and neither is
an expression in which nothing is written. -/
def depth : Regex → Nat
  | literal _ | any | edge | wordEdge | category _ | flags _ => 0
  | bracketed _ members => members.depth + 1
  | group _ _ body => body.depth + 1
  | repeated body => body.depth + 1
  | sequence items => listDepth items
  | choice branches => listDepth branches

def listDepth : List Regex → Nat
  | [] => 0
  | item :: rest => max (item.depth + 1) (listDepth rest)
end

mutual
def names : Regex → List (List Char)
  | group name _ body => name.toList ++ body.names
  | repeated body => body.names
  | sequence items => listNames items
  | choice branches => listNames branches
  | literal _ | any | edge | wordEdge | category _ | bracketed _ _ | flags _ => []

def listNames : List Regex → List (List Char)
  | [] => []
  | item :: rest => item.names ++ listNames rest
end

end Regex

end LinkRouting
