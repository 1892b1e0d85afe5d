import LinkRouting.Proofs.Setup
import LinkRouting.Proofs.Text.Trim
import Mathlib.Data.List.Nodup

namespace LinkRouting

/-! Which schemes of an installed table are found by their names.  Blanks around a name do not
count when names are compared, yet a scheme is registered with them, and then neither its trimmed
name nor any URL leads to it.
-/

variable {Handler Callback State : Type}

namespace Text

/-- Trimming that does not make a text shorter takes nothing away. -/
theorem trim_eq_of_toLower {text : String} (same : (trim text).toLower = text.toLower) :
    trim text = text := by
  have length : (trim text).toList.length = text.toList.length := by
    have lower := congrArg (fun lower => lower.toList.length) same
    simpa only [toList_toLower, List.length_map] using lower
  have shorter : (trim text).toList.Sublist text.toList := by
    rw [trim, String.toList_ofList]
    exact trimBoth_sublist
  exact String.toList_injective (shorter.eq_of_length length)

end Text

namespace Config

theorem WellNamed.eq_of_toLower {schemes : List SchemeEntry} (wellNamed : WellNamed schemes)
    {scheme other : SchemeEntry} (member : scheme ∈ schemes) (otherMember : other ∈ schemes)
    (same : other.name.toLower = (Text.trim scheme.name).toLower) : other = scheme := by
  refine List.inj_on_of_nodup_map wellNamed.distinct otherMember member ?_
  rw [← Text.trim_toLower, same, Text.trim_toLower, Text.trim_trim]

/-- The name of a scheme leads to it only if it has no blanks around it. -/
theorem Installed.has_iff {config : Config} {handlers : String → Option Handler}
    {registry : Registry Handler Callback} (installed : config.Installed handlers registry)
    (wellNamed : WellNamed config.schemes) {scheme : SchemeEntry}
    (member : scheme ∈ config.schemes) :
    registry.has (Text.trim scheme.name).toLower = true ↔
      Text.trim scheme.name = scheme.name := by
  have found : registry.has (Text.trim scheme.name).toLower = true ↔
      (Text.trim scheme.name).toLower ∈ registry.table.keys := by
    rw [Dictionary.mem_keys_iff, ← Option.isSome_iff_ne_none]
    rfl
  rw [found, installed.names.mem_iff, List.mem_cons, List.mem_map]
  constructor
  · rintro (reserved | ⟨other, otherMember, same⟩)
    · exact absurd reserved (wellNamed.unreserved scheme member)
    · have own := wellNamed.eq_of_toLower member otherMember same
      exact Text.trim_eq_of_toLower (own ▸ same).symm
  · intro trimmed
    exact .inr ⟨scheme, member, by rw [trimmed]⟩

end Config

theorem Registry.handleFor_of_ok [Url.Names] {registry : Registry Handler Callback}
    {source : String} {url : Url} (parsed : Url.parse source = .ok url) :
    registry.handleFor source =
      if registry.has url.scheme.toLower then ⟨url.scheme.toLower⟩ else .global := by
  simp only [Registry.handleFor, parsed]
  rfl

namespace World

open Config

/-- A scheme is found by its trimmed name, and by URLs, if and only if trimming takes nothing
away. -/
theorem install_reached [Url.Names] {config : Config} (valid : config.problems = [])
    (handlers : String → Option Handler)
    (known : ∀ declared ∈ config.declared, handlers declared.2.target ≠ none) (app : State)
    {scheme : SchemeEntry} (member : scheme ∈ config.schemes) :
    let result : Except SetupError Unit × World Handler Callback State :=
      install config handlers app
    let registry := result.2.registry
    let name := Text.trim scheme.name
    result.1 = .ok () ∧ (result.2.hasScheme name = true ↔ name = scheme.name) ∧
      ∀ source url, Url.parse source = .ok url → url.scheme.toLower = name.toLower →
        if name = scheme.name then
          registry.handleFor source = ⟨name.toLower⟩ ∧
            registry.entry name.toLower =
              installed handlers name.toLower scheme.fallback scheme.routes
        else registry.handleFor source = .global := by
  intro result registry name
  have finished : result.1 = .ok () :=
    (install_fst valid handlers app).trans (verdict_eq_ok_iff.mpr known)
  have table : config.Installed handlers registry :=
    install_installed valid handlers app (verdict_eq_ok_iff.mpr known)
  have reached : registry.has name.toLower = true ↔ name = scheme.name :=
    table.has_iff (problems_eq_nil_iff.mp valid).1 member
  refine ⟨finished, reached, fun source url parsed same => ?_⟩
  rw [Registry.handleFor_of_ok parsed, same]
  split
  · rename_i trimmed
    rw [if_pos (reached.mpr trimmed)]
    refine ⟨rfl, ?_⟩
    rw [Registry.entry, trimmed, table.schemes scheme member, Option.getD_some]
  · rename_i padded
    rw [if_neg (mt reached.mp padded)]

/-- Two schemes with a route each.  The name of the first is written with blanks around it. -/
def paddedTable : Config where
  schemes :=
    [⟨" app ", true, [⟨some "/a", [], 0, "home"⟩]⟩, ⟨"Web", true, [⟨some "/b", [], 2, "home"⟩]⟩]

theorem install_reached_web :
    let result : _ × World Nat Unit Unit := install paddedTable (fun _ => some 1) ()
    paddedTable.problems = [] ∧ result.1 = .ok () ∧ result.2.hasScheme "Web" = true ∧
      result.2.registry.handleFor "WEB://b" = ⟨"web"⟩ ∧
      (result.2.registry.entry "web").fallback = true ∧
      (result.2.registry.routes "web").map Route.pattern = ["/b"] := by
  intro result
  have valid : paddedTable.problems = [] := by decide +kernel
  have trimmed : Text.trim "Web" = "Web" ∧ "Web".toLower = "web" := by decide +kernel
  have lower : "web".toLower = "web" := by decide +kernel
  have parsed : Url.parse "WEB://b" = .ok ⟨"web", some ⟨[], ['b'], none⟩, [], none, none⟩ := rfl
  have member : ⟨"Web", true, [⟨some "/b", [], 2, "home"⟩]⟩ ∈ paddedTable.schemes := by decide
  obtain ⟨finished, present, found⟩ := install_reached valid (fun _ => some 1) (by simp) () member
  have reached := found "WEB://b" _ parsed (by rw [trimmed.1, trimmed.2, lower])
  rw [if_pos trimmed.1, trimmed.1, trimmed.2] at reached
  refine ⟨valid, finished, ?_, reached.1, ?_, ?_⟩
  · rw [trimmed.1] at present
    exact present.mpr rfl
  · rw [reached.2]
    rfl
  · rw [Registry.routes, reached.2, installed, ← sortDescending_eq_mergeSort]
    decide +kernel

/-- The table has no problems, and still the routes of its first scheme are out of reach. -/
theorem padded_unreached :
    let result : _ × World Nat Unit Unit := install paddedTable (fun _ => some 1) ()
    paddedTable.problems = [] ∧ result.1.toOption = some () ∧ Text.trim " app " = "app" ∧
      result.2.hasScheme "app" = false ∧
      (Url.parse "app://a").toOption.map Url.scheme = some "app" ∧
      result.2.registry.handleFor "app://a" = .global ∧
      (result.2.registry.routes globalScheme).map Route.pattern = [] := by
  intro result
  decide +kernel

end World

end LinkRouting
