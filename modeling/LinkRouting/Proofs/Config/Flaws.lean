import LinkRouting.Proofs.Config.Reporting

namespace LinkRouting

/-! Flaws of a route table, each by the place where it is, and which of them are told.  A problem
names what is wrong but not always where, so a flaw is told if the problem that its place calls for
is among those found.
-/

namespace Config

/-- Schemes are told apart by their positions, routes by theirs among all that are declared, and
patterns by theirs in their route. -/
inductive Flaw where
  | nameless (scheme : Nat)
  | reserved (scheme : Nat)
  | repeated (scheme : Nat)
  | patternless (route : Nat)
  | aimless (route : Nat)
  | uncompiled (route pattern : Nat)

namespace Flaw

def In (config : Config) : Flaw → Prop
  | nameless index => ∃ scheme, config.schemes[index]? = some scheme ∧ Text.trim scheme.name = ""
  | reserved index => ∃ scheme, config.schemes[index]? = some scheme ∧
      (Text.trim scheme.name).toLower = globalScheme
  | repeated index => ∃ scheme, config.schemes[index]? = some scheme ∧
      ∃ earlier ∈ config.schemes.take index,
        (Text.trim earlier.name).toLower = (Text.trim scheme.name).toLower
  | patternless index => ∃ route, config.declared[index]? = some route ∧
      route.2.pattern = none ∧ route.2.patterns = []
  | aimless index => ∃ route, config.declared[index]? = some route ∧
      Text.trim route.2.target = ""
  | uncompiled index position => ∃ route pattern cause, config.declared[index]? = some route ∧
      (route.2.pattern.toList ++ route.2.patterns)[position]? = some pattern ∧
        Pattern.compile pattern = .error cause

def Told (config : Config) : Flaw → Prop
  | nameless index => .emptySchemeName index ∈ config.problems
  | reserved index => ∃ scheme, config.schemes[index]? = some scheme ∧
      .reservedScheme scheme.name ∈ config.problems
  | repeated index => ∃ scheme, config.schemes[index]? = some scheme ∧
      .duplicateScheme scheme.name ∈ config.problems
  | patternless index => ∃ route, config.declared[index]? = some route ∧
      .missingPattern route.1 route.2.target ∈ config.problems
  | aimless index => ∃ route pattern, config.declared[index]? = some route ∧
      route.2.Has pattern ∧ .emptyTarget route.1 pattern ∈ config.problems
  | uncompiled index position => ∃ route pattern cause, config.declared[index]? = some route ∧
      (route.2.pattern.toList ++ route.2.patterns)[position]? = some pattern ∧
        Pattern.compile pattern = .error cause ∧
          .invalidPattern route.1 cause ∈ config.problems

/-- Another flaw at the same place keeps this one from being looked for. -/
def Masked (config : Config) : Flaw → Prop
  | repeated index => (nameless index).In config ∨ (reserved index).In config
  | aimless index => (patternless index).In config
  | _ => False

end Flaw

variable {config : Config} {scheme : SchemeEntry} {route : String × RouteEntry} {index : Nat}
  {problem : Problem} {flaw : Flaw} {name pattern : String}

theorem mem_problems_of_name (place : config.schemes[index]? = some scheme)
    (wrong : problem.OfName (config.schemes.take index) scheme.name) :
    problem ∈ config.problems := by
  obtain ⟨bound, found⟩ := List.getElem?_eq_some_iff.mp place
  have split : config.schemes =
      config.schemes.take index ++ scheme :: config.schemes.drop (index + 1) := by
    rw [← found, ← List.drop_eq_getElem_cons bound, List.take_append_drop]
  exact mem_problems_iff.mpr (.name _ scheme _ split wrong)

theorem mem_problems_of_route (place : config.declared[index]? = some route)
    (wrong : problem.OfRoute route.1 route.2) : problem ∈ config.problems :=
  mem_problems_iff.mpr (.route route (List.mem_of_getElem? place) wrong)

/-- Only names that are neither blank nor reserved are told to be taken. -/
theorem usual_of_duplicate (told : .duplicateScheme name ∈ config.problems) :
    Text.trim name ≠ "" ∧ (Text.trim name).toLower ≠ globalScheme := by
  rcases mem_problems_iff.mp told with ⟨before, scheme, behind, split, wrong⟩ | ⟨_, _, wrong⟩
  · obtain ⟨rfl, named, unreserved, _⟩ := wrong
    exact ⟨named, unreserved⟩
  · cases wrong

namespace Flaw

theorem told_of_not_masked (present : flaw.In config) (seen : ¬flaw.Masked config) :
    flaw.Told config := by
  cases flaw with
  | nameless index =>
      obtain ⟨scheme, place, blank⟩ := present
      obtain ⟨bound, _⟩ := List.getElem?_eq_some_iff.mp place
      have position : index = (config.schemes.take index).length := by
        rw [List.length_take, Nat.min_eq_left (Nat.le_of_lt bound)]
      exact mem_problems_of_name place ⟨position, blank⟩
  | reserved index =>
      obtain ⟨scheme, place, reserved⟩ := present
      exact ⟨scheme, place, mem_problems_of_name place ⟨rfl, reserved⟩⟩
  | repeated index =>
      obtain ⟨scheme, place, taken⟩ := present
      have named : Text.trim scheme.name ≠ "" := fun blank => seen (.inl ⟨scheme, place, blank⟩)
      have unreserved : (Text.trim scheme.name).toLower ≠ globalScheme :=
        fun reserved => seen (.inr ⟨scheme, place, reserved⟩)
      exact ⟨scheme, place, mem_problems_of_name place ⟨rfl, named, unreserved, taken⟩⟩
  | patternless index =>
      obtain ⟨route, place, nothing⟩ := present
      exact ⟨route, place, mem_problems_of_route place ⟨rfl, rfl, nothing⟩⟩
  | aimless index =>
      obtain ⟨route, place, blank⟩ := present
      have patterned : route.2.allPatterns ≠ [] := fun nothing =>
        seen ⟨route, place, RouteEntry.allPatterns_eq_nil_iff.mp nothing⟩
      obtain ⟨pattern, member⟩ := List.exists_mem_of_ne_nil _ patterned
      have has := RouteEntry.mem_allPatterns_iff.mp member
      exact ⟨route, pattern, place, has, mem_problems_of_route place ⟨rfl, has, blank⟩⟩
  | uncompiled index position =>
      obtain ⟨route, pattern, cause, place, found, failed⟩ := present
      have has : route.2.Has pattern :=
        RouteEntry.mem_allPatterns_iff.mp (List.mem_of_getElem? found)
      exact ⟨route, pattern, cause, place, found, failed,
        mem_problems_of_route place ⟨rfl, pattern, has, failed⟩⟩

theorem not_told_of_masked (masked : flaw.Masked config) : ¬flaw.Told config := by
  cases flaw with
  | repeated index =>
      rintro ⟨scheme, place, told⟩
      obtain ⟨named, unreserved⟩ := usual_of_duplicate told
      rcases masked with ⟨other, same, blank⟩ | ⟨other, same, reserved⟩
      · cases place.symm.trans same
        exact named blank
      · cases place.symm.trans same
        exact unreserved reserved
  | aimless index =>
      rintro ⟨route, pattern, place, has, _⟩
      obtain ⟨other, same, nothing⟩ := masked
      cases place.symm.trans same
      rw [← RouteEntry.mem_allPatterns_iff, RouteEntry.allPatterns_eq_nil_iff.mpr nothing] at has
      cases has
  | nameless index => cases masked
  | reserved index => cases masked
  | patternless index => cases masked
  | uncompiled index position => cases masked

theorem told_iff (present : flaw.In config) : flaw.Told config ↔ ¬flaw.Masked config :=
  ⟨fun told masked => not_told_of_masked masked told, told_of_not_masked present⟩

/-- What masks a flaw is a flaw that is told. -/
theorem exists_told (present : flaw.In config) : ∃ other : Flaw, other.Told config := by
  by_cases masked : flaw.Masked config
  · cases flaw with
    | repeated index =>
        rcases masked with nameless | reserved
        · exact ⟨_, told_of_not_masked nameless id⟩
        · exact ⟨_, told_of_not_masked reserved id⟩
    | aimless index =>
        have patternless : (patternless index).In config := masked
        exact ⟨_, told_of_not_masked patternless id⟩
    | nameless index => cases masked
    | reserved index => cases masked
    | patternless index => cases masked
    | uncompiled index position => cases masked
  · exact ⟨flaw, told_of_not_masked present masked⟩

theorem problems_ne_nil_of_told (told : flaw.Told config) : config.problems ≠ [] := by
  cases flaw with
  | nameless index => exact List.ne_nil_of_mem told
  | reserved index => exact let ⟨_, _, member⟩ := told; List.ne_nil_of_mem member
  | repeated index => exact let ⟨_, _, member⟩ := told; List.ne_nil_of_mem member
  | patternless index => exact let ⟨_, _, member⟩ := told; List.ne_nil_of_mem member
  | aimless index => exact let ⟨_, _, _, _, member⟩ := told; List.ne_nil_of_mem member
  | uncompiled index position =>
      exact let ⟨_, _, _, _, _, _, member⟩ := told; List.ne_nil_of_mem member

theorem exists_of_mem_problems (found : problem ∈ config.problems) :
    ∃ flaw : Flaw, flaw.In config := by
  rcases mem_problems_iff.mp found with ⟨before, scheme, behind, split, wrong⟩ |
    ⟨route, member, wrong⟩
  · have place : config.schemes[before.length]? = some scheme := by rw [split]; simp
    have passed : config.schemes.take before.length = before := by rw [split]; simp
    cases problem with
    | emptySchemeName index => exact ⟨.nameless before.length, scheme, place, wrong.2⟩
    | reservedScheme name => exact ⟨.reserved before.length, scheme, place, wrong.2⟩
    | duplicateScheme name =>
        exact ⟨.repeated before.length, scheme, place, passed.symm ▸ wrong.2.2.2⟩
    | missingPattern scheme target => cases wrong
    | emptyTarget scheme pattern => cases wrong
    | invalidPattern scheme cause => cases wrong
  · obtain ⟨index, place⟩ := List.mem_iff_getElem?.mp member
    cases problem with
    | missingPattern scheme target => exact ⟨.patternless index, route, place, wrong.2.2⟩
    | emptyTarget scheme pattern => exact ⟨.aimless index, route, place, wrong.2.2⟩
    | invalidPattern scheme cause =>
        obtain ⟨_, pattern, has, failed⟩ := wrong
        obtain ⟨position, found⟩ :=
          List.mem_iff_getElem?.mp (RouteEntry.mem_allPatterns_iff.mpr has)
        exact ⟨.uncompiled index position, route, pattern, cause, place, found, failed⟩
    | emptySchemeName index => cases wrong
    | duplicateScheme name => cases wrong
    | reservedScheme name => cases wrong

end Flaw

theorem problems_eq_nil_iff_flawless :
    config.problems = [] ↔ ∀ flaw : Flaw, ¬flaw.In config := by
  constructor
  · intro accepted flaw present
    obtain ⟨other, told⟩ := Flaw.exists_told present
    exact Flaw.problems_ne_nil_of_told told accepted
  · intro flawless
    refine List.eq_nil_iff_forall_not_mem.mpr fun problem found => ?_
    obtain ⟨flaw, present⟩ := Flaw.exists_of_mem_problems found
    exact flawless flaw present

/-- Every flaw of a table is told but two kinds: a name that is blank or reserved is not looked up
among the names before it, and the target of a route without patterns is not looked at.  So a table
in which all that was told is mended, and nothing else has become wrong, is accepted unless one of
these is left in it. -/
theorem flaws_told (config : Config) :
    (∀ flaw : Flaw, flaw.In config → (flaw.Told config ↔ ¬flaw.Masked config)) ∧
    ∀ mended : Config, (∀ flaw : Flaw, flaw.In mended → flaw.In config) →
      (∀ flaw : Flaw, flaw.In config → flaw.Told config → ¬flaw.In mended) →
      (mended.problems = [] ↔ ∀ flaw : Flaw, flaw.Masked config → ¬flaw.In mended) := by
  refine ⟨fun flaw => Flaw.told_iff, fun mended old gone => ?_⟩
  rw [problems_eq_nil_iff_flawless]
  constructor
  · exact fun flawless flaw _ => flawless flaw
  · intro unmasked flaw left
    have present := old flaw left
    by_cases masked : flaw.Masked config
    · exact unmasked flaw masked left
    · exact gone flaw present (Flaw.told_of_not_masked present masked) left

/-- One route leads nowhere and from nowhere.  Only the second is told, and once there is a pattern
the first turns up. -/
theorem aimless_untold :
    let config : Config := { routes := [⟨none, [], 0, ""⟩] }
    let mended : Config := { routes := [⟨some "/", [], 0, ""⟩] }
    (Flaw.aimless 0).In config ∧ ¬(Flaw.aimless 0).Told config ∧
      config.problems = [.missingPattern globalScheme ""] ∧
      mended.problems = [.emptyTarget globalScheme "/"] := by
  refine ⟨⟨_, rfl, rfl⟩, ?_, rfl, by decide⟩
  rintro ⟨route, pattern, place, single | listed, _⟩
  · cases place
    cases single
  · cases place
    cases listed

end Config

end LinkRouting
