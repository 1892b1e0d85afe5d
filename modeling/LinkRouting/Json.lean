import LinkRouting.Dictionary

namespace LinkRouting

namespace Json

/-- Integers and numbers with a fraction are told apart: `decimal m n` is `m` divided by the
`n`th power of ten. -/
inductive Number where
  | integer (value : Int)
  | decimal (mantissa : Int) (places : Nat)
deriving DecidableEq, Repr, Inhabited

end Json

/-- JSON values.  Objects list their members in ascending order of the names, each name once, so
that equality of values is equality of what they denote. -/
inductive Json where
  | null
  | boolean (value : Bool)
  | number (value : Json.Number)
  | text (value : String)
  | list (items : List Json)
  | object (members : List (String × Json))
deriving Inhabited

namespace Json

def ofDictionary (members : Dictionary Json) : Json :=
  .object members.entries

/-- The object with the given members, of which the last of each name counts. -/
def ofMembers (members : List (String × Json)) : Json :=
  ofDictionary (.ofList members)

def integer (value : Int) : Json :=
  .number (.integer value)

mutual

def decEq : (a b : Json) → Decidable (a = b)
  | .null, .null => isTrue rfl
  | .boolean a, .boolean b =>
      if h : a = b then isTrue (h ▸ rfl) else isFalse fun e => h (Json.boolean.inj e)
  | .number a, .number b =>
      if h : a = b then isTrue (h ▸ rfl) else isFalse fun e => h (Json.number.inj e)
  | .text a, .text b =>
      if h : a = b then isTrue (h ▸ rfl) else isFalse fun e => h (Json.text.inj e)
  | .list a, .list b =>
      match decEqItems a b with
      | isTrue h => isTrue (h ▸ rfl)
      | isFalse h => isFalse fun e => h (Json.list.inj e)
  | .object a, .object b =>
      match decEqMembers a b with
      | isTrue h => isTrue (h ▸ rfl)
      | isFalse h => isFalse fun e => h (Json.object.inj e)
  | .null, .boolean _ | .null, .number _ | .null, .text _ | .null, .list _ | .null, .object _
  | .boolean _, .null | .boolean _, .number _ | .boolean _, .text _ | .boolean _, .list _
  | .boolean _, .object _ | .number _, .null | .number _, .boolean _ | .number _, .text _
  | .number _, .list _ | .number _, .object _ | .text _, .null | .text _, .boolean _
  | .text _, .number _ | .text _, .list _ | .text _, .object _ | .list _, .null
  | .list _, .boolean _ | .list _, .number _ | .list _, .text _ | .list _, .object _
  | .object _, .null | .object _, .boolean _ | .object _, .number _ | .object _, .text _
  | .object _, .list _ => isFalse nofun

def decEqItems : (a b : List Json) → Decidable (a = b)
  | [], [] => isTrue rfl
  | [], _ :: _ | _ :: _, [] => isFalse nofun
  | a :: as, b :: bs =>
      match decEq a b, decEqItems as bs with
      | isTrue h, isTrue t => isTrue (h ▸ t ▸ rfl)
      | isFalse h, _ => isFalse fun e => h (List.cons.inj e).1
      | _, isFalse t => isFalse fun e => t (List.cons.inj e).2

def decEqMembers : (a b : List (String × Json)) → Decidable (a = b)
  | [], [] => isTrue rfl
  | [], _ :: _ | _ :: _, [] => isFalse nofun
  | (name, a) :: as, (other, b) :: bs =>
      if n : name = other then
        match decEq a b, decEqMembers as bs with
        | isTrue h, isTrue t => isTrue (n ▸ h ▸ t ▸ rfl)
        | isFalse h, _ => isFalse fun e => h (Prod.mk.inj (List.cons.inj e).1).2
        | _, isFalse t => isFalse fun e => t (List.cons.inj e).2
      else isFalse fun e => n (Prod.mk.inj (List.cons.inj e).1).1

end

instance : DecidableEq Json := decEq

end Json

end LinkRouting
