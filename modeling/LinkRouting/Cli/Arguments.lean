import LinkRouting.Text.Cut

namespace LinkRouting.Cli

inductive Argument where
  /-- Two hyphens, behind which everything is an operand. -/
  | terminator
  /-- A long name, and a value behind an equals sign. -/
  | long (name : String) (value : Option String)
  /-- A letter, and what is attached to it. -/
  | short (letter : Char) (attached : List Char)
  | word (text : String)
deriving DecidableEq, Repr

/-- A lone hyphen is a word. -/
def Argument.ofString (text : String) : Argument :=
  match text.toList with
  | ['-', '-'] => .terminator
  | '-' :: '-' :: rest =>
      match Text.cut '=' rest with
      | (name, value) => .long (String.ofList name) (value.map String.ofList)
  | '-' :: letter :: attached => .short letter attached
  | _ => .word text

/-- An option that takes a value. -/
structure Setting where
  name : String
  letter : Char
deriving DecidableEq, Repr

/-- How an argument stands to an option. -/
inductive Mention where
  /-- It is something else. -/
  | absent
  /-- The next argument is the value. -/
  | announced
  | given (value : String)
deriving DecidableEq, Repr

/-- Looks for an option in an argument.  An equals sign behind the letter does not belong to
the value. -/
def Setting.mention (setting : Setting) : Argument → Mention
  | .long name value =>
      if name ≠ setting.name then .absent
      else
        match value with
        | none => .announced
        | some value => .given value
  | .short letter attached =>
      if letter ≠ setting.letter then .absent
      else
        match attached with
        | [] => .announced
        | '=' :: value => .given (String.ofList value)
        | value => .given (String.ofList value)
  | _ => .absent

structure Operands where
  words : List String
  values : List String
deriving DecidableEq, Repr

namespace Operands

def addWord (word : String) (operands : Operands) : Operands :=
  { operands with words := word :: operands.words }

def addValue (value : String) (operands : Operands) : Operands :=
  { operands with values := value :: operands.values }

/-- What has been read decides how an argument is taken. -/
inductive Place where
  | anywhere
  /-- Behind an option that takes a value. -/
  | value
  /-- Behind the terminator. -/
  | wordsOnly
deriving DecidableEq, Repr

/-- Reads arguments that may hold words and, if there is one, a setting.  Any other option is
refused, and so is a setting without a value. -/
def read? (setting : Option Setting) : Place → List String → Option Operands
  | .value, [] => none
  | _, [] => some ⟨[], []⟩
  | .wordsOnly, word :: rest => (read? setting .wordsOnly rest).map (addWord word)
  | .value, argument :: rest =>
      match Argument.ofString argument with
      | .word value => (read? setting .anywhere rest).map (addValue value)
      | _ => none
  | .anywhere, argument :: rest =>
      match Argument.ofString argument with
      | .word word => (read? setting .anywhere rest).map (addWord word)
      | .terminator => read? setting .wordsOnly rest
      | option =>
          match setting.elim .absent (·.mention option) with
          | .absent => none
          | .announced => read? setting .value rest
          | .given value => (read? setting .anywhere rest).map (addValue value)

end Operands

inductive Command where
  /-- Routes a URL with parameters and prints which target has it. -/
  | route (url : String) (params : List (String × String))
  /-- Tells whether a route would be tried for a URL. -/
  | check (url : String)
  /-- Prints what a pattern stands for. -/
  | expand (pattern : String)
  | list
deriving DecidableEq, Repr

structure Invocation where
  /-- The configuration file, if there is one. -/
  config : Option String
  command : Command
deriving DecidableEq, Repr

namespace Command

def paramSetting : Setting :=
  ⟨"param", 'p'⟩

/-- A key and a value with an equals sign between them. -/
def pair? (text : String) : Option (String × String) :=
  match Text.cut '=' text.toList with
  | (key, some value) => some (String.ofList key, String.ofList value)
  | (_, none) => none

def word? (arguments : List String) : Option String :=
  match Operands.read? none .anywhere arguments with
  | some ⟨[word], _⟩ => some word
  | _ => none

def ofArguments? : List String → Option Command
  | "route" :: arguments =>
      match Operands.read? (some paramSetting) .anywhere arguments with
      | some ⟨[url], values⟩ => (values.mapM pair?).map (.route url)
      | _ => none
  | "check" :: arguments => (word? arguments).map .check
  | "expand" :: arguments => (word? arguments).map .expand
  | "list" :: arguments =>
      match Operands.read? none .anywhere arguments with
      | some ⟨[], _⟩ => some .list
      | _ => none
  | _ => none

end Command

namespace Invocation

def configSetting : Setting :=
  ⟨"config", 'c'⟩

/-- Reads a command to be carried out with a configuration file.  The file has to have a name,
and a second one is refused with everything else that is no command. -/
def withConfig? (path : String) (arguments : List String) : Option Invocation :=
  if path = "" then none else (Command.ofArguments? arguments).map (⟨some path, ·⟩)

def ofArguments? (arguments : List String) : Option Invocation :=
  match arguments with
  | [] => none
  | first :: rest =>
      match configSetting.mention (.ofString first), rest with
      | .absent, _ => (Command.ofArguments? arguments).map (⟨none, ·⟩)
      | .given path, _ => withConfig? path rest
      | .announced, [] => none
      | .announced, next :: rest =>
          match Argument.ofString next with
          | .word path => withConfig? path rest
          | _ => none

end Invocation

end LinkRouting.Cli
