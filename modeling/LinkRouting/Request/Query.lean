import LinkRouting.Params
import LinkRouting.Text.Cut
import LinkRouting.Text.Percent

namespace LinkRouting

/-- Undoes percent coding, and before that writes a space for each plus sign if they are to be
decoded. -/
def decodeComponent (value : String) (plus : Bool) : String :=
  let spaced :=
    if plus then value.toList.map (fun c => if c = '+' then ' ' else c) else value.toList
  String.ofList (Text.Percent.decode spaced)

namespace Query

/-- A key, and a value if an equals sign announced one. -/
abbrev Item := String × Option String

def item (plus : Bool) (text : List Char) : Item :=
  match Text.cut '=' text with
  | (key, none) => (decodeComponent (String.ofList key) false, none)
  | (key, some value) =>
      (decodeComponent (String.ofList key) false,
        some (decodeComponent (String.ofList value) plus))

/-- The items of a query.  Plus signs are decoded in values only. -/
def items (plus : Bool) (text : List Char) : List Item :=
  ((text.splitOn '&').filter fun piece => !piece.isEmpty).map (item plus)

def grouped (items : List Item) : Dictionary (List String) :=
  items.foldl (fun groups item =>
    match item.2 with
    | none => groups
    | some value => groups.insert item.1 ((groups.get? item.1).getD [] ++ [value])) .empty

/-- A single value is a text, several are a list. -/
def shape : List String → ParamValue
  | [value] => .text value
  | values => .list values

/-- The parameters that items give.  Items without a value give none. -/
def params (items : List Item) : Params :=
  (grouped items).mapValues shape

/-- Whether items are taken for a query at all: the first has to have a value that is not
empty. -/
def meant : List Item → Bool
  | (_, some value) :: _ => value ≠ ""
  | _ => false

end Query

end LinkRouting
