import LinkRouting.Proofs.Query
import LinkRouting.Request.Basic
import Mathlib.Data.List.Induction

namespace LinkRouting

namespace Query

variable {key : String}

/-- What stands between ampersands, unless it is nothing. -/
def pieces (text : List Char) : List (List Char) :=
  (text.splitOn '&').filter fun piece => !piece.isEmpty

/-- The value that a piece gives to `key`, which has to be what its name spells.  A plus sign in a
name is no space. -/
def value? (plus : Bool) (key : String) (piece : List Char) : Option String :=
  match Text.cut '=' piece with
  | (name, some value) =>
      if decodeComponent (String.ofList name) false = key then
        some (decodeComponent (String.ofList value) plus)
      else none
  | (_, none) => none

/-- Whether the first piece has a value that is not empty. -/
def leads (pieces : List (List Char)) : Bool :=
  pieces.head?.any fun piece => (Text.cut '=' piece).2.any fun value => !value.isEmpty

/-- What is found under a key that was given these values. -/
def found? : List String → Option ParamValue
  | [] => none
  | [value] => some (.text value)
  | values => some (.list values)

def valueUnder? (key : String) (item : Item) : Option String :=
  if item.1 = key then item.2 else none

theorem grouped_concat_none (items : List Item) (name : String) :
    grouped (items ++ [(name, none)]) = grouped items := by
  rw [grouped, List.foldl_append]
  rfl

theorem grouped_concat_some (items : List Item) (name value : String) :
    grouped (items ++ [(name, some value)]) =
      (grouped items).insert name (((grouped items).get? name).getD [] ++ [value]) := by
  rw [grouped, List.foldl_append]
  rfl

/-- By induction on the items read so far: one more value goes behind those of its key. -/
theorem get?_grouped (items : List Item) : (grouped items).get? key =
    if items.filterMap (valueUnder? key) = [] then none
    else some (items.filterMap (valueUnder? key)) := by
  induction items using List.reverseRecOn with
  | nil => rfl
  | append_singleton items item ih =>
      obtain ⟨name, value⟩ := item
      rw [List.filterMap_append]
      cases value with
      | none =>
          have nothing : [(name, none)].filterMap (valueUnder? key) = [] := by simp [valueUnder?]
          rw [grouped_concat_none, ih, nothing, List.append_nil]
      | some value =>
          rw [grouped_concat_some, Dictionary.get?_insert]
          by_cases same : key = name
          · subst same
            have last : [(key, some value)].filterMap (valueUnder? key) = [value] := by
              simp [valueUnder?]
            have before : ((grouped items).get? key).getD [] =
                items.filterMap (valueUnder? key) := by
              rw [ih]
              split
              · rename_i none
                exact none.symm
              · rfl
            rw [if_pos rfl, before, last, if_neg (List.append_ne_nil_of_right_ne_nil _ (by simp))]
          · have nothing : [(name, some value)].filterMap (valueUnder? key) = [] := by
              simp [valueUnder?, Ne.symm same]
            rw [if_neg same, ih, nothing, List.append_nil]

theorem get?_params (items : List Item) :
    (params items).get? key = found? (items.filterMap (valueUnder? key)) := by
  rw [params, Dictionary.get?_mapValues, get?_grouped]
  cases items.filterMap (valueUnder? key) with
  | nil => rfl
  | cons value rest => cases rest <;> rfl

theorem valueUnder?_item (plus : Bool) (piece : List Char) :
    valueUnder? key (item plus piece) = value? plus key piece := by
  unfold item value?
  rcases Text.cut '=' piece with ⟨name, _ | value⟩
  · exact ite_self none
  · rfl

theorem filterMap_items (plus : Bool) (text : List Char) :
    (items plus text).filterMap (valueUnder? key) = (pieces text).filterMap (value? plus key) := by
  rw [items, List.filterMap_map]
  exact congrArg (List.filterMap · _) (funext fun piece => valueUnder?_item plus piece)

/-- Decoding makes nothing of a value only if nothing is there. -/
theorem meant_items (plus : Bool) (text : List Char) :
    meant (items plus text) = leads (pieces text) := by
  change meant ((pieces text).map (item plus)) = leads (pieces text)
  cases pieces text with
  | nil => rfl
  | cons piece rest =>
      rw [List.map_cons, leads, List.head?_cons, Option.any_some, item]
      rcases Text.cut '=' piece with ⟨name, _ | value⟩
      · rfl
      · have empty : decodeComponent (String.ofList value) plus = "" ↔ value = [] :=
          (decodeComponent_eq_empty_iff _ plus).trans String.ofList_eq_empty_iff
        simp only [meant, ne_eq, empty, Option.any_some]
        cases value <;> rfl

end Query

namespace FragmentParts

/-- What of a fragment can be a query: the text behind its first question mark, or all of it if it
holds none. -/
def queryText (fragment : List Char) : List Char :=
  (Text.cut '?' fragment).2.getD fragment

theorem items_ofFragment (plus : Bool) (fragment : List Char) :
    (ofFragment plus fragment).items =
      if Query.leads (Query.pieces (queryText fragment)) then
        Query.items plus (queryText fragment)
      else [] := by
  unfold ofFragment queryText
  rcases Text.cut '?' fragment with ⟨path, _ | query⟩ <;> simp only [Query.meant_items, Option.getD]

end FragmentParts

/-- No value of a query is lost, duplicated or moved: what is found under a key are the values that
the pieces of the query give to it, and then those that the pieces of the fragment do if the
fragment counts as a query. -/
theorem Request.get?_query (source : String) (url : Url) (options : Options) (given : Params)
    (key : String) :
    let fragment := Query.pieces (FragmentParts.queryText (url.fragment.getD []))
    let pieces := Query.pieces (url.query.getD []) ++
      if Query.leads fragment then fragment else []
    (ofUrl source url options given).query.get? key =
      Query.found? (pieces.filterMap (Query.value? options.decodePlus key)) := by
  intro fragment pieces
  have merged : (FragmentParts.ofFragment options.decodePlus (url.fragment.getD [])).items.filterMap
      (Query.valueUnder? key) =
        (if Query.leads fragment then fragment else []).filterMap
          (Query.value? options.decodePlus key) := by
    rw [FragmentParts.items_ofFragment]
    split
    · exact Query.filterMap_items options.decodePlus _
    · rfl
  rw [ofUrl, Query.get?_params, List.filterMap_append, List.filterMap_append, merged,
    Query.filterMap_items]

end LinkRouting
