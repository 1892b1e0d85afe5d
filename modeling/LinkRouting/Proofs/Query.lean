import LinkRouting.Proofs.Dictionary
import LinkRouting.Proofs.Text.Percent
import LinkRouting.Request.Query

namespace LinkRouting

inductive ParamKind where
  | text
  | list (length : Nat)
  | json
deriving DecidableEq, Repr

def ParamValue.kind : ParamValue → ParamKind
  | .text _ => .text
  | .list items => .list items.length
  | .json _ => .json

theorem decodeComponent_eq_empty_iff (value : String) (plus : Bool) :
    decodeComponent value plus = "" ↔ value = "" := by
  unfold decodeComponent
  rw [String.ofList_eq_empty_iff, Text.Percent.decode_eq_nil_iff]
  cases plus <;> simp

namespace Query

/-- The key of an item, and whether it has a value and that is empty. -/
def outline (item : Item) : String × Option Bool :=
  (item.1, item.2.map fun value => decide (value = ""))

variable {items others : List Item}

theorem outline_item (plus other : Bool) (text : List Char) :
    outline (item plus text) = outline (item other text) := by
  unfold item
  split
  · rfl
  · simp only [outline, Option.map_some, decodeComponent_eq_empty_iff]

theorem outline_items (plus other : Bool) (text : List Char) :
    (Query.items plus text).map outline = (Query.items other text).map outline := by
  simp only [Query.items, List.map_map]
  exact List.map_congr_left fun piece _ => outline_item plus other piece

theorem meant_eq (items : List Item) : meant items =
    ((items.map outline).head?.bind Prod.snd).any (!·) := by
  cases items with
  | nil => rfl
  | cons item rest =>
      obtain ⟨key, value⟩ := item
      cases value <;> simp [meant, outline]

theorem meant_congr (same : items.map outline = others.map outline) :
    meant items = meant others := by
  rw [meant_eq, meant_eq, same]

/-- Counts one more value under the key of an item that has one. -/
def count (counts : Dictionary Nat) (outline : String × Option Bool) : Dictionary Nat :=
  if outline.2.isSome then counts.insert outline.1 ((counts.get? outline.1).getD 0 + 1)
  else counts

theorem length_grouped (items : List Item) : (grouped items).mapValues List.length =
    (items.map outline).foldl count .empty := by
  have empty : (Dictionary.empty : Dictionary Nat) =
      (Dictionary.empty : Dictionary (List String)).mapValues List.length := rfl
  rw [empty, grouped]
  generalize (Dictionary.empty : Dictionary (List String)) = groups
  induction items generalizing groups with
  | nil => rfl
  | cons item rest ih =>
      obtain ⟨key, value⟩ := item
      cases value with
      | none => exact ih groups
      | some value =>
          have length : ((groups.get? key).getD [] ++ [value]).length =
              ((groups.mapValues List.length).get? key).getD 0 + 1 := by
            rw [Dictionary.get?_mapValues, List.length_append]
            cases groups.get? key <;> rfl
          have next := ih (groups.insert key ((groups.get? key).getD [] ++ [value]))
          rw [Dictionary.mapValues_insert, length] at next
          exact next

/-- Every key has as many values as before, of whatever texts. -/
theorem kind_params (same : items.map outline = others.map outline) :
    (params items).mapValues ParamValue.kind = (params others).mapValues ParamValue.kind := by
  have kind : ParamValue.kind ∘ shape =
      (fun count => if count = 1 then .text else .list count) ∘ List.length := by
    funext values
    unfold Function.comp shape
    split
    · rfl
    · rename_i several
      refine (if_neg fun single => ?_).symm
      obtain ⟨value, rfl⟩ := List.length_eq_one_iff.mp single
      exact several value rfl
  rw [params, params, Dictionary.mapValues_mapValues, Dictionary.mapValues_mapValues, kind,
    ← Dictionary.mapValues_mapValues, ← Dictionary.mapValues_mapValues, length_grouped,
    length_grouped, same]

end Query

end LinkRouting
