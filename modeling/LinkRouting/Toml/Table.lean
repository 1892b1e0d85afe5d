import LinkRouting.Config.Document

namespace LinkRouting.Toml

inductive Item where
  | value (document : Document)
  /-- A table that is `implied` by the name of another, or by the dots in a key if it is also
  `dotted`. -/
  | table (implied dotted : Bool) (members : List (String × Item))
  /-- The tables of a list, each written under a header of its own. -/
  | tables (elements : List (List (String × Item)))
deriving Inhabited

abbrev Members := List (String × Item)

namespace Members

def replace (name : String) (item : Item) (members : Members) : Members :=
  members.map fun member => if member.1 = name then (name, item) else member

/-- Goes down a path and changes the members found there.  Missing tables are made, `dotted` if
the path stands in a key; in a key, tables that have headers are out of bounds.  `change` is
told whether the table it gets was made by dots. -/
def descend (dotted : Bool) (change : Bool → Members → Option Members) :
    (path : List String) → (made : Bool) → Members → Option Members
  | [], made, members => change made members
  | name :: path, _, members =>
      match members.lookup name with
      | none =>
          (descend dotted change path dotted []).map fun inner =>
            members ++ [(name, .table true dotted inner)]
      | some (.value _) => none
      | some (.table implied made inner) =>
          if dotted && !implied then none
          else
            (descend dotted change path made inner).map fun inner =>
              members.replace name (.table implied made inner)
      | some (.tables elements) =>
          match elements.getLast? with
          | none => none
          | some last =>
              (descend dotted change path false last).map fun last =>
                members.replace name (.tables (elements.dropLast ++ [last]))

/-- Adds a value under a key with dots.  No key may be given twice, and dots may not lead into a
table that was not made by dots. -/
def assign (path : List String) (name : String) (value : Document) (members : Members) :
    Option Members :=
  descend true (fun made inner =>
    if made = path.isEmpty then none
    else if (inner.lookup name).isSome then none
    else some (inner ++ [(name, .value value)])) path false members

/-- What is already in a table that a header announces: nothing, or the tables inside it that
came first. -/
def announced (path : List String) (name : String) (members : Members) : Option Members :=
  let found : Option (Option Item) :=
    -- The place is looked up and nothing is changed.
    (go path members).map fun inner => inner.lookup name
  match found with
  | none => none
  | some none => some []
  | some (some (.table true false inner)) => some inner
  | some (some _) => none
where
  go : List String → Members → Option Members
    | [], members => some members
    | name :: path, members =>
        match members.lookup name with
        | none => some []
        | some (.value _) => none
        | some (.table _ _ inner) => go path inner
        | some (.tables elements) =>
            match elements.getLast? with
            | none => none
            | some last => go path last

def putTable (path : List String) (name : String) (members table : Members) : Option Members :=
  descend false (fun _ inner =>
    match inner.lookup name with
    | none => some (inner ++ [(name, .table false false table)])
    | some (.table true false _) => some (inner.replace name (.table false false table))
    | some _ => none) path false members

/-- Puts the finished table of a header with double brackets at the end of its list. -/
def pushTable (path : List String) (name : String) (members table : Members) : Option Members :=
  descend false (fun _ inner =>
    match inner.lookup name with
    | none => some (inner ++ [(name, .tables [table])])
    | some (.tables elements) => some (inner.replace name (.tables (elements ++ [table])))
    | some _ => none) path false members

end Members

mutual

def Item.toDocument : Item → Document
  | .value document => document
  | .table _ _ members => .table (documentMembers members)
  | .tables elements => .list (documentElements elements)

def documentMembers : List (String × Item) → List (String × Document)
  | [] => []
  | (name, item) :: rest => (name, item.toDocument) :: documentMembers rest

def documentElements : List (List (String × Item)) → List Document
  | [] => []
  | members :: rest => .table (documentMembers members) :: documentElements rest

end

end LinkRouting.Toml
