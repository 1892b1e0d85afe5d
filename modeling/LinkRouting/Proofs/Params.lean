import LinkRouting.Params
import LinkRouting.Proofs.Dictionary

namespace LinkRouting

namespace ParamValue

/-- JSON that comes back as another kind of value. -/
inductive Retyped : ParamValue → ParamValue → Prop
  | text (value : String) : Retyped (.json (.text value)) (.text value)
  | list (items : List String) : Retyped (.json (.list (items.map .text))) (.list items)

/-- The texts that `items` are, if all of them are texts. -/
def texts? (items : List Json) : Option (List String) :=
  items.mapM fun | .text value => some value | _ => none

variable {value other : ParamValue} {items : List Json} {texts : List String}

theorem texts?_text_cons (text : String) :
    texts? (.text text :: items) = (texts? items).map (text :: ·) := by
  unfold texts?
  rw [List.mapM_cons]
  cases items.mapM fun | Json.text value => some value | _ => none <;> rfl

theorem texts?_map_text (texts : List String) : texts? (texts.map .text) = some texts := by
  induction texts with
  | nil => rfl
  | cons text rest ih => rw [List.map_cons, texts?_text_cons, ih]; rfl

theorem texts?_eq_some_iff : texts? items = some texts ↔ items = texts.map .text := by
  constructor
  · intro read
    induction items generalizing texts with
    | nil => cases read; rfl
    | cons item rest ih =>
        cases item with
        | text text =>
            rw [texts?_text_cons] at read
            obtain ⟨others, later, rfl⟩ := Option.map_eq_some_iff.mp read
            rw [ih later, List.map_cons]
        | _ => cases read
  · rintro rfl
    exact texts?_map_text texts

theorem ofJson_list : ofJson (.list items) =
    match texts? items with
    | some texts => .list texts
    | none => .json (.list items) :=
  rfl

/-- What is read is written as it was. -/
theorem toJson_ofJson (value : Json) : (ofJson value).toJson = value := by
  cases value with
  | list items =>
      rw [ofJson_list]
      split
      · rename_i read
        exact (congrArg Json.list (texts?_eq_some_iff.mp read)).symm
      · rfl
  | _ => rfl

theorem ofJson_list_map_text (texts : List String) :
    ofJson (.list (texts.map .text)) = .list texts := by
  rw [ofJson_list, texts?_map_text]

theorem ofJson_toJson_of_retyped (retyped : Retyped value other) :
    ofJson value.toJson = other := by
  cases retyped with
  | text value => rfl
  | list items => exact ofJson_list_map_text items

theorem ofJson_toJson_of_not_retyped (kept : ∀ other, ¬Retyped value other) :
    ofJson value.toJson = value := by
  cases value with
  | text value => rfl
  | list items => exact ofJson_list_map_text items
  | json value =>
      cases value with
      | text value => exact absurd (.text value) (kept _)
      | list items =>
          change ofJson (.list items) = _
          rw [ofJson_list]
          split
          · rename_i texts read
            cases texts?_eq_some_iff.mp read
            exact absurd (.list texts) (kept _)
          · rfl
      | _ => rfl

theorem ofJson_toJson_eq_self_iff :
    ofJson value.toJson = value ↔ ∀ other, ¬Retyped value other := by
  constructor
  · intro same other retyped
    rw [ofJson_toJson_of_retyped retyped] at same
    cases retyped <;> cases same
  · exact ofJson_toJson_of_not_retyped

theorem text?_ofJson_toJson (value : ParamValue) : (ofJson value.toJson).text? = value.text? := by
  by_cases retyped : ∃ other, Retyped value other
  · obtain ⟨other, retyped⟩ := retyped
    rw [ofJson_toJson_of_retyped retyped]
    cases retyped <;> rfl
  · rw [ofJson_toJson_of_not_retyped (not_exists.mp retyped)]

end ParamValue

namespace Params

theorem ofJson?_ofDictionary (members : Dictionary Json) :
    ofJson? (.ofDictionary members) = some (members.mapValues .ofJson) :=
  congrArg some (Dictionary.ofList_entries (members.mapValues ParamValue.ofJson))

/-- An object is written as it was read.  Parameters are read as they were written unless some of
them are texts, or lists of nothing but texts, that were kept as JSON; these lose that, and
nothing else changes. -/
theorem json_regained :
    (∀ members : Dictionary Json, ∃ params, ofJson? (.ofDictionary members) = some params ∧
      params.toJson = .ofDictionary members) ∧
    ∀ params : Params, ∃ back, ofJson? params.toJson = some back ∧
      (back = params ↔
        ∀ key value other, params.get? key = some value → ¬ParamValue.Retyped value other) ∧
      (∀ key value other, params.get? key = some value → ParamValue.Retyped value other →
        back.get? key = some other) ∧
      (∀ key value, params.get? key = some value → (∀ other, ¬ParamValue.Retyped value other) →
        back.get? key = some value) ∧
      back.keys = params.keys ∧ back.size = params.size ∧
      ∀ key, back.text? key = params.text? key := by
  constructor
  · intro members
    refine ⟨_, ofJson?_ofDictionary members, ?_⟩
    have same : members.mapValues (ParamValue.toJson ∘ ParamValue.ofJson) = members :=
      Dictionary.mapValues_eq_self_iff.mpr fun _ value _ => ParamValue.toJson_ofJson value
    rw [toJson, Dictionary.mapValues_mapValues, same]
  · intro params
    let back := params.mapValues (ParamValue.ofJson ∘ ParamValue.toJson)
    have read : ofJson? params.toJson = some back := by
      rw [toJson, ofJson?_ofDictionary, Dictionary.mapValues_mapValues]
    have found (key : String) : back.get? key = (params.get? key).map _ :=
      Dictionary.get?_mapValues _
    refine ⟨back, read, ?_, ?_, ?_, ?_, ?_, ?_⟩
    · refine Dictionary.mapValues_eq_self_iff.trans ?_
      constructor
      · exact fun same key value other stored =>
          ParamValue.ofJson_toJson_eq_self_iff.mp (same key value stored) other
      · exact fun kept key value stored =>
          ParamValue.ofJson_toJson_eq_self_iff.mpr fun other => kept key value other stored
    · intro key value other stored retyped
      rw [found, stored]
      exact congrArg some (ParamValue.ofJson_toJson_of_retyped retyped)
    · intro key value stored kept
      rw [found, stored]
      exact congrArg some (ParamValue.ofJson_toJson_of_not_retyped kept)
    · exact Dictionary.keys_mapValues _
    · exact Dictionary.size_mapValues _
    · intro key
      rw [text?, text?, found]
      cases params.get? key with
      | none => rfl
      | some value => exact ParamValue.text?_ofJson_toJson value

example : ofJson? (toJson (.ofList [("a", .json (.list [])), ("b", .json (.list [.null]))])) =
    some (.ofList [("a", .list []), ("b", .json (.list [.null]))]) := by decide

end Params

end LinkRouting
