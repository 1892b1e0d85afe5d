import LinkRouting.Config.Validation
import LinkRouting.Proofs.Text.Chars
import LinkRouting.Proofs.Text.Trim

namespace LinkRouting

namespace Config

/-- The pattern is the single one of a route or one in its list. -/
def RouteEntry.Has (entry : RouteEntry) (pattern : String) : Prop :=
  entry.pattern = some pattern ∨ pattern ∈ entry.patterns

/-- A route with patterns that all compile, and a target. -/
structure RouteEntry.Sound (entry : RouteEntry) : Prop where
  patterned : ∃ pattern, entry.Has pattern
  aimed : Text.trim entry.target ≠ ""
  compiles : ∀ pattern, entry.Has pattern → ∃ candidates, Pattern.compile pattern = .ok candidates

/-- Schemes whose names differ from each other, from the global one and from nothing, also when
blanks around them and the case of letters do not count. -/
structure WellNamed (schemes : List SchemeEntry) : Prop where
  named : ∀ scheme ∈ schemes, Text.trim scheme.name ≠ ""
  unreserved : ∀ scheme ∈ schemes, (Text.trim scheme.name).toLower ≠ globalScheme
  distinct : (schemes.map fun scheme => (Text.trim scheme.name).toLower).Nodup

variable {scheme pattern target name : String} {seen : List String} {index : Nat}
  {schemes : List SchemeEntry} {entry : RouteEntry} {config : Config}

theorem RouteEntry.mem_allPatterns_iff : pattern ∈ entry.allPatterns ↔ entry.Has pattern := by
  rw [allPatterns, List.mem_append, Option.mem_toList, Has]

theorem RouteEntry.allPatterns_eq_nil_iff :
    entry.allPatterns = [] ↔ entry.pattern = none ∧ entry.patterns = [] := by
  rw [allPatterns, List.append_eq_nil_iff, Option.toList_eq_nil_iff]

theorem patternProblems_eq_nil_iff : patternProblems scheme target pattern = [] ↔
    Text.trim target ≠ "" ∧ ∃ candidates, Pattern.compile pattern = .ok candidates := by
  unfold patternProblems
  cases compiled : Pattern.compile pattern <;> simp [Text.trim_eq_empty_iff]

theorem routeProblems_eq_nil_iff : routeProblems scheme entry = [] ↔ entry.Sound := by
  unfold routeProblems
  split
  · rename_i nothing
    refine ⟨nofun, fun sound => ?_⟩
    obtain ⟨pattern, has⟩ := sound.patterned
    rw [← RouteEntry.mem_allPatterns_iff, nothing] at has
    cases has
  · rename_i patterned
    simp only [List.flatMap_eq_nil_iff, patternProblems_eq_nil_iff,
      RouteEntry.mem_allPatterns_iff]
    constructor
    · intro fine
      obtain ⟨pattern, member⟩ := List.exists_mem_of_ne_nil _ patterned
      have has := RouteEntry.mem_allPatterns_iff.mp member
      exact ⟨⟨pattern, has⟩, (fine pattern has).1, fun pattern has => (fine pattern has).2⟩
    · intro sound pattern has
      exact ⟨sound.aimed, sound.compiles pattern has⟩

theorem normalName_eq_empty_iff : normalName name = "" ↔ Text.trim name = "" := by
  rw [normalName, ← String.toList_inj, ← String.toList_inj, Text.toList_toLower,
    String.toList_empty, List.map_eq_nil_iff]

theorem nameProblems_eq_nil_iff : (nameProblems seen index name).1 = [] ↔
    normalName name ≠ "" ∧ normalName name ≠ globalScheme ∧ normalName name ∉ seen := by
  unfold nameProblems
  dsimp only
  split
  · simp_all
  · split
    · simp_all
    · split <;> simp_all

theorem nameProblems_noted (fine : (nameProblems seen index name).1 = []) :
    (nameProblems seen index name).2 = normalName name :: seen := by
  obtain ⟨named, unreserved, fresh⟩ := nameProblems_eq_nil_iff.mp fine
  simp [nameProblems, named, unreserved, fresh]

theorem wellNamed_cons_iff {scheme : SchemeEntry} : WellNamed (scheme :: schemes) ↔
    normalName scheme.name ≠ "" ∧ normalName scheme.name ≠ globalScheme ∧
      normalName scheme.name ∉ schemes.map (normalName ·.name) ∧
        WellNamed schemes := by
  rw [Ne, normalName_eq_empty_iff]
  constructor
  · rintro ⟨named, unreserved, distinct⟩
    obtain ⟨fresh, others⟩ := List.nodup_cons.mp distinct
    rw [List.forall_mem_cons] at named unreserved
    exact ⟨named.1, unreserved.1, fresh, named.2, unreserved.2, others⟩
  · rintro ⟨named, unreserved, fresh, others⟩
    exact ⟨List.forall_mem_cons.mpr ⟨named, others.named⟩,
      List.forall_mem_cons.mpr ⟨unreserved, others.unreserved⟩,
      List.nodup_cons.mpr ⟨fresh, others.distinct⟩⟩

namespace WellNamed

variable (wellNamed : WellNamed schemes)
include wellNamed

theorem nodup_toLower : (schemes.map (·.name.toLower)).Nodup := by
  refine List.pairwise_map.mpr ((List.pairwise_map.mp wellNamed.distinct).imp ?_)
  intro scheme other different same
  rw [← Text.trim_toLower, ← Text.trim_toLower, same] at different
  exact different rfl

theorem toLower_ne_global {scheme : SchemeEntry} (member : scheme ∈ schemes) :
    scheme.name.toLower ≠ globalScheme := by
  intro same
  have trimmed : Text.trim globalScheme = globalScheme := by decide
  exact wellNamed.unreserved scheme member
    (by rw [← Text.trim_toLower, same, trimmed])

end WellNamed

theorem schemeProblems_eq_nil_iff : schemeProblems seen index schemes = [] ↔
    WellNamed schemes ∧ (∀ scheme ∈ schemes, normalName scheme.name ∉ seen) ∧
      ∀ scheme ∈ schemes, ∀ entry ∈ scheme.routes, entry.Sound := by
  induction schemes generalizing seen index with
  | nil => exact ⟨fun _ => ⟨⟨nofun, nofun, .nil⟩, nofun, nofun⟩, fun _ => rfl⟩
  | cons scheme rest ih =>
      simp only [schemeProblems, List.append_eq_nil_iff, List.flatMap_eq_nil_iff,
        routeProblems_eq_nil_iff, ih, wellNamed_cons_iff, List.forall_mem_cons]
      constructor
      · rintro ⟨⟨fine, sound⟩, wellNamed, others, sounds⟩
        obtain ⟨named, unreserved, fresh⟩ := nameProblems_eq_nil_iff.mp fine
        rw [nameProblems_noted fine] at others
        have different : normalName scheme.name ∉ rest.map (normalName ·.name) := by
          intro again
          obtain ⟨other, member, same⟩ := List.mem_map.mp again
          exact others other member (same ▸ List.mem_cons_self)
        exact ⟨⟨named, unreserved, different, wellNamed⟩,
          ⟨fresh, fun other member => List.not_mem_of_not_mem_cons (others other member)⟩,
          sound, sounds⟩
      · rintro ⟨⟨named, unreserved, different, wellNamed⟩, ⟨fresh, others⟩, sound, sounds⟩
        have fine : (nameProblems seen index scheme.name).1 = [] :=
          nameProblems_eq_nil_iff.mpr ⟨named, unreserved, fresh⟩
        refine ⟨⟨fine, sound⟩, wellNamed, fun other member again => ?_, sounds⟩
        rw [nameProblems_noted fine] at again
        rcases List.mem_cons.mp again with same | taken
        · exact different (same ▸ List.mem_map_of_mem member)
        · exact others other member taken

theorem problems_eq_nil_iff : config.problems = [] ↔
    WellNamed config.schemes ∧ (∀ entry ∈ config.routes, entry.Sound) ∧
      ∀ scheme ∈ config.schemes, ∀ entry ∈ scheme.routes, entry.Sound := by
  simp only [problems, List.append_eq_nil_iff, List.flatMap_eq_nil_iff, routeProblems_eq_nil_iff,
    schemeProblems_eq_nil_iff]
  constructor
  · rintro ⟨routes, wellNamed, -, schemes⟩
    exact ⟨wellNamed, routes, schemes⟩
  · rintro ⟨wellNamed, routes, schemes⟩
    exact ⟨routes, wellNamed, fun _ _ => List.not_mem_nil, schemes⟩

end Config

end LinkRouting
