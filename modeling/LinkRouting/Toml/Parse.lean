import LinkRouting.Toml.Syntax

namespace LinkRouting.Toml

/-- The header that assignments stand under. -/
inductive Header where
  | root
  | table (key : Key)
  | element (key : Key)

/-- A document that is being read: the finished tables, and the open one with its header. -/
structure Draft where
  finished : Members
  header : Header
  opened : Members

namespace Draft

def empty : Draft :=
  ⟨[], .root, []⟩

/-- Puts the open table in its place. -/
def close (draft : Draft) : Option Members :=
  match draft.header with
  | .root => some draft.opened
  | .table key => draft.finished.putTable key.path key.name draft.opened
  | .element key => draft.finished.pushTable key.path key.name draft.opened

def add (draft : Draft) : Statement → Option Draft
  | .assignment key value =>
      (draft.opened.assign key.path key.name value).map fun opened => { draft with opened }
  | .table key =>
      match draft.close with
      | none => none
      | some finished =>
          (finished.announced key.path key.name).map fun opened => ⟨finished, .table key, opened⟩
  | .element key => draft.close.map fun finished => ⟨finished, .element key, []⟩

def addAll (draft : Draft) : List Statement → Option Draft
  | [] => some draft
  | statement :: rest =>
      match draft.add statement with
      | none => none
      | some draft => draft.addAll rest

end Draft

/-- A byte order mark at the beginning does not count. -/
def skipMark : List Char → List Char
  | '\uFEFF' :: rest => rest
  | text => text

/-- Reads a document, which is the table of its members. -/
def parse? (text : String) : Option Document :=
  let input := skipMark text.toList
  match readStatements (input.length + 1) input with
  | none => none
  | some statements =>
      match Draft.empty.addAll statements with
      | none => none
      | some draft => draft.close.map fun members => .table (documentMembers members)

end LinkRouting.Toml
