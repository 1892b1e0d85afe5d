import LinkRouting.Json

namespace LinkRouting

inductive ParamValue where
  | text (value : String)
  | list (items : List String)
  | json (value : Json)
deriving DecidableEq, Inhabited

namespace ParamValue

/-- The text of a value that is one, be it as JSON. -/
def text? : ParamValue → Option String
  | .text value => some value
  | .json (.text value) => some value
  | _ => none

def list? : ParamValue → Option (List String)
  | .list items => some items
  | _ => none

def toJson : ParamValue → Json
  | .text value => .text value
  | .list items => .list (items.map .text)
  | .json value => value

/-- Texts and lists of nothing but texts are recognized, everything else stays JSON. -/
def ofJson : Json → ParamValue
  | .text value => .text value
  | .list items =>
      match items.mapM fun | .text value => some value | _ => none with
      | some texts => .list texts
      | none => .json (.list items)
  | value => .json value

end ParamValue

abbrev Params := Dictionary ParamValue

namespace Params

/-- The key of the canonical text of the path pattern that matched. -/
def patternKey : String := "route_pattern"

def urlKey : String := "route_url"

def schemeKey : String := "route_scheme"

def wildcardKey : String := "route_wildcard_components"

def text? (params : Params) (key : String) : Option String :=
  (params.get? key).bind ParamValue.text?

def pattern? (params : Params) : Option String :=
  params.text? patternKey

def url? (params : Params) : Option String :=
  params.text? urlKey

def scheme? (params : Params) : Option String :=
  params.text? schemeKey

def wildcard? (params : Params) : Option (List String) :=
  (params.get? wildcardKey).bind ParamValue.list?

def toJson (params : Params) : Json :=
  .ofDictionary (params.mapValues ParamValue.toJson)

def ofJson? : Json → Option Params
  | .object members => some (.ofList (members.map fun member => (member.1, .ofJson member.2)))
  | _ => none

end Params

end LinkRouting
