import LinkRouting.Proofs.Config.Soundness
import LinkRouting.Proofs.Setup
import LinkRouting.Proofs.Text.Trim

namespace LinkRouting

namespace Config

/-- The problem is one with the name of a scheme that comes after these. -/
def Problem.OfName (before : List SchemeEntry) (name : String) : Problem → Prop
  | emptySchemeName index => index = before.length ∧ Text.trim name = ""
  | reservedScheme told => told = name ∧ (Text.trim name).toLower = globalScheme
  | duplicateScheme told => told = name ∧ Text.trim name ≠ "" ∧
      (Text.trim name).toLower ≠ globalScheme ∧
        ∃ earlier ∈ before, (Text.trim earlier.name).toLower = (Text.trim name).toLower
  | _ => False

/-- The problem is one with a route that is declared for this scheme. -/
def Problem.OfRoute (scheme : String) (entry : RouteEntry) : Problem → Prop
  | missingPattern told target =>
      told = scheme ∧ target = entry.target ∧ entry.pattern = none ∧ entry.patterns = []
  | emptyTarget told pattern =>
      told = scheme ∧ entry.Has pattern ∧ Text.trim entry.target = ""
  | invalidPattern told cause =>
      told = scheme ∧ ∃ pattern, entry.Has pattern ∧ Pattern.compile pattern = .error cause
  | _ => False

inductive Problem.Present (config : Config) (problem : Problem) : Prop where
  | name (before : List SchemeEntry) (scheme : SchemeEntry) (behind : List SchemeEntry)
      (split : config.schemes = before ++ scheme :: behind)
      (wrong : problem.OfName before scheme.name)
  | route (declared : String × RouteEntry) (member : declared ∈ config.declared)
      (wrong : problem.OfRoute declared.1 declared.2)

/-- The names that are taken after these schemes. -/
def Noted (before : List SchemeEntry) (seen : List String) : Prop :=
  ∀ name, name ∈ seen ↔ name ≠ "" ∧ name ≠ globalScheme ∧
    ∃ scheme ∈ before, normalName scheme.name = name

variable {scheme pattern target name taken : String} {seen : List String} {index : Nat}
  {before schemes : List SchemeEntry} {entry : RouteEntry} {config : Config} {problem : Problem}

theorem mem_nameProblems_snd : taken ∈ (nameProblems seen index name).2 ↔
    taken ∈ seen ∨ taken = normalName name ∧ taken ≠ "" ∧ taken ≠ globalScheme := by
  unfold nameProblems
  dsimp only
  split
  · simp_all
  · split
    · simp_all
    · split
      · simp_all
      · rw [List.mem_cons]
        grind

namespace Noted

theorem nil : Noted [] [] := by
  simp [Noted]

theorem next (noted : Noted before seen) (scheme : SchemeEntry) (index : Nat) :
    Noted (before ++ [scheme]) (nameProblems seen index scheme.name).2 := by
  intro name
  rw [mem_nameProblems_snd, noted name]
  grind

theorem mem_iff (noted : Noted before seen) (named : normalName name ≠ "")
    (unreserved : normalName name ≠ globalScheme) : normalName name ∈ seen ↔
      ∃ earlier ∈ before, normalName earlier.name = normalName name := by
  rw [noted]
  exact ⟨fun taken => taken.2.2, fun taken => ⟨named, unreserved, taken⟩⟩

end Noted

theorem mem_nameProblems_iff (noted : Noted before seen) :
    problem ∈ (nameProblems seen before.length name).1 ↔ problem.OfName before name := by
  unfold nameProblems
  dsimp only
  split
  · rename_i nameless
    have blank := normalName_eq_empty_iff.mp nameless
    rw [normalName, blank] at nameless
    cases problem <;> simp [Problem.OfName, blank, nameless, globalScheme]
  · rename_i named
    have plain := mt normalName_eq_empty_iff.mpr named
    split
    · rename_i reserved
      rw [normalName] at reserved
      cases problem <;> simp [Problem.OfName, plain, reserved]
    · rename_i unreserved
      have known := noted.mem_iff named unreserved
      split
      · rename_i taken
        have earlier := known.mp taken
        rw [normalName] at unreserved
        simp only [normalName] at earlier
        cases problem <;> simp [Problem.OfName, plain, unreserved, earlier]
      · rename_i free
        rw [known] at free
        rw [normalName] at unreserved
        simp only [normalName] at free
        cases problem <;> simp [Problem.OfName, plain, unreserved, free]

theorem mem_patternProblems_iff : problem ∈ patternProblems scheme target pattern ↔
    (problem = .emptyTarget scheme pattern ∧ Text.trim target = "") ∨
      ∃ cause, problem = .invalidPattern scheme cause ∧ Pattern.compile pattern = .error cause := by
  unfold patternProblems
  rw [Text.trim_eq_empty_iff]
  cases Pattern.compile pattern <;> simp [and_comm]

theorem mem_routeProblems_iff :
    problem ∈ routeProblems scheme entry ↔ problem.OfRoute scheme entry := by
  unfold routeProblems
  split
  · rename_i nothing
    have absent (pattern : String) : ¬entry.Has pattern := by
      rw [← RouteEntry.mem_allPatterns_iff, nothing]
      exact List.not_mem_nil
    obtain ⟨single, list⟩ := RouteEntry.allPatterns_eq_nil_iff.mp nothing
    cases problem <;> simp [Problem.OfRoute, single, list, absent]
  · rename_i patterned
    have some : ¬(entry.pattern = none ∧ entry.patterns = []) :=
      mt RouteEntry.allPatterns_eq_nil_iff.mpr patterned
    simp only [List.mem_flatMap, mem_patternProblems_iff, RouteEntry.mem_allPatterns_iff]
    cases problem <;> grind [Problem.OfRoute]

/-- A way to cut a list that is not empty is to cut it at its first item or behind that. -/
theorem exists_cut_cons_iff {α : Type} {a : α} {items : List α} {P : List α → α → Prop} :
    (∃ before b behind, a :: items = before ++ b :: behind ∧ P before b) ↔
      P [] a ∨ ∃ before b behind, items = before ++ b :: behind ∧ P (a :: before) b := by
  constructor
  · rintro ⟨before, b, behind, split, holds⟩
    cases before with
    | nil =>
        obtain ⟨rfl, rfl⟩ := List.cons.inj split
        exact .inl holds
    | cons c before =>
        obtain ⟨rfl, others⟩ := List.cons.inj split
        exact .inr ⟨before, b, behind, others, holds⟩
  · rintro (holds | ⟨before, b, behind, split, holds⟩)
    · exact ⟨[], a, items, rfl, holds⟩
    · exact ⟨a :: before, b, behind, congrArg (a :: ·) split, holds⟩

theorem mem_schemeProblems_iff (noted : Noted before seen) :
    problem ∈ schemeProblems seen before.length schemes ↔
      (∃ passed scheme behind, schemes = passed ++ scheme :: behind ∧
        problem.OfName (before ++ passed) scheme.name) ∨
      ∃ scheme ∈ schemes, ∃ entry ∈ scheme.routes, problem.OfRoute scheme.name entry := by
  induction schemes generalizing before seen with
  | nil => simp [schemeProblems]
  | cons scheme rest ih =>
      have later := ih (noted.next scheme before.length)
      rw [List.length_append, List.length_singleton] at later
      simp only [schemeProblems, List.mem_append, List.mem_flatMap, mem_nameProblems_iff noted,
        mem_routeProblems_iff, later, List.mem_cons, exists_eq_or_imp, List.append_assoc,
        List.singleton_append, List.append_nil, or_assoc,
        exists_cut_cons_iff (P := fun passed scheme =>
          problem.OfName (before ++ passed) scheme.name)]
      exact or_congr_right or_left_comm

theorem exists_declared_iff {P : String → RouteEntry → Prop} :
    (∃ declared ∈ config.declared, P declared.1 declared.2) ↔
      (∃ entry ∈ config.routes, P globalScheme entry) ∨
        ∃ scheme ∈ config.schemes, ∃ entry ∈ scheme.routes, P scheme.name entry := by
  simp only [declared, List.mem_append, List.mem_flatMap, List.mem_map, or_and_right, exists_or]
  grind

theorem forall_declared_iff {P : RouteEntry → Prop} :
    (∀ declared ∈ config.declared, P declared.2) ↔
      (∀ entry ∈ config.routes, P entry) ∧
        ∀ scheme ∈ config.schemes, ∀ entry ∈ scheme.routes, P entry := by
  simp only [declared, List.forall_mem_append, List.forall_mem_map, List.forall_mem_flatMap]

theorem present_iff : problem.Present config ↔
    (∃ declared ∈ config.declared, problem.OfRoute declared.1 declared.2) ∨
      ∃ before scheme behind, config.schemes = before ++ scheme :: behind ∧
        problem.OfName before scheme.name := by
  constructor
  · rintro (⟨before, scheme, behind, split, wrong⟩ | ⟨declared, member, wrong⟩)
    · exact .inr ⟨before, scheme, behind, split, wrong⟩
    · exact .inl ⟨declared, member, wrong⟩
  · rintro (⟨declared, member, wrong⟩ | ⟨before, scheme, behind, split, wrong⟩)
    · exact .route declared member wrong
    · exact .name before scheme behind split wrong

/-- The problems found are those that are there. -/
theorem mem_problems_iff : problem ∈ config.problems ↔ problem.Present config := by
  have scanned : problem ∈ schemeProblems [] 0 config.schemes ↔ _ :=
    mem_schemeProblems_iff Noted.nil
  simp only [List.nil_append] at scanned
  rw [present_iff, exists_declared_iff (P := fun scheme entry => problem.OfRoute scheme entry)]
  simp only [problems, List.mem_append, List.mem_flatMap, mem_routeProblems_iff, scanned]
  exact or_assoc.symm.trans or_right_comm

theorem wellNamed_iff : WellNamed schemes ↔
    (∀ scheme ∈ schemes,
      Text.trim scheme.name ≠ "" ∧ (Text.trim scheme.name).toLower ≠ globalScheme) ∧
    schemes.Pairwise fun scheme other =>
      (Text.trim scheme.name).toLower ≠ (Text.trim other.name).toLower := by
  rw [← List.pairwise_map (f := fun scheme : SchemeEntry => (Text.trim scheme.name).toLower)
    (R := (· ≠ ·))]
  constructor
  · intro wellNamed
    exact ⟨fun scheme member => ⟨wellNamed.named scheme member,
      wellNamed.unreserved scheme member⟩, wellNamed.distinct⟩
  · rintro ⟨usual, distinct⟩
    exact ⟨fun scheme member => (usual scheme member).1,
      fun scheme member => (usual scheme member).2, distinct⟩

/-- A table has no problems just when its schemes have names that differ from each other, from the
global one and from nothing, and all its routes are sound.  Otherwise every problem that is told is
one that the table has. -/
theorem problems_exact (config : Config) :
    (config.problems = [] ↔
      (∀ scheme ∈ config.schemes,
        Text.trim scheme.name ≠ "" ∧ (Text.trim scheme.name).toLower ≠ globalScheme) ∧
      config.schemes.Pairwise (fun scheme other =>
        (Text.trim scheme.name).toLower ≠ (Text.trim other.name).toLower) ∧
      ∀ declared ∈ config.declared, declared.2.Sound) ∧
    ∀ problem ∈ config.problems, problem.Present config := by
  refine ⟨?_, fun _ => mem_problems_iff.mp⟩
  rw [problems_eq_nil_iff, wellNamed_iff, ← forall_declared_iff, and_assoc]

end Config

end LinkRouting
