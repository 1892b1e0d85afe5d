import LinkRouting.Json

namespace LinkRouting

inductive Document where
  | null
  | boolean (value : Bool)
  | integer (value : Int)
  | text (value : String)
  | list (items : List Document)
  /-- Members in the order of the document. -/
  | table (members : List (String × Document))
  /-- A date or a time. -/
  | moment
  /-- A number with a fraction. -/
  | real
deriving Inhabited

namespace Document

mutual

def ofJson : Json → Document
  | .null => .null
  | .boolean value => .boolean value
  | .number (.integer value) => .integer value
  | .number (.decimal ..) => .real
  | .text value => .text value
  | .list items => .list (ofItems items)
  | .object members => .table (ofMembers members)

def ofItems : List Json → List Document
  | [] => []
  | item :: rest => ofJson item :: ofItems rest

def ofMembers : List (String × Json) → List (String × Document)
  | [] => []
  | (name, value) :: rest => (name, ofJson value) :: ofMembers rest

end

end Document

end LinkRouting
