import LinkRouting.Proofs.Ranking
import LinkRouting.Proofs.Registry

namespace LinkRouting

variable {Handler Callback State α β ε : Type}

section Traversal

variable {f : α → Except ε β} {first : α} {rest items : List α} {results : List β} {error : ε}

theorem mapM_cons_eq_ok_iff : (first :: rest).mapM f = .ok results ↔
    ∃ b others, f first = .ok b ∧ rest.mapM f = .ok others ∧ b :: others = results := by
  rw [List.mapM_cons]
  cases f first with
  | error cause => simp [bind, Except.bind]
  | ok b => cases rest.mapM f <;> simp [bind, Except.bind, pure, Except.pure]

theorem mapM_cons_eq_error_iff : (first :: rest).mapM f = .error error ↔
    f first = .error error ∨ ∃ b, f first = .ok b ∧ rest.mapM f = .error error := by
  rw [List.mapM_cons]
  cases f first with
  | error cause => simp [bind, Except.bind]
  | ok b => cases rest.mapM f <;> simp [bind, Except.bind, pure, Except.pure]

theorem exists_mapM_eq_ok_iff :
    (∃ results, items.mapM f = .ok results) ↔ ∀ a ∈ items, ∃ b, f a = .ok b := by
  induction items with
  | nil => simp [pure, Except.pure]
  | cons first rest ih =>
      simp only [List.forall_mem_cons, ← ih, mapM_cons_eq_ok_iff]
      constructor
      · rintro ⟨_, b, others, passes, later, _⟩
        exact ⟨⟨b, passes⟩, others, later⟩
      · rintro ⟨⟨b, passes⟩, others, later⟩
        exact ⟨_, b, others, passes, later, rfl⟩

/-- The error of a traversal is that of the first item which has one. -/
theorem mapM_eq_error_iff : items.mapM f = .error error ↔
    ∃ before a behind, items = before ++ a :: behind ∧
      (∀ earlier ∈ before, ∃ b, f earlier = .ok b) ∧ f a = .error error := by
  constructor
  · intro failed
    induction items with
    | nil => cases failed
    | cons first rest ih =>
        rcases mapM_cons_eq_error_iff.mp failed with fails | ⟨b, passes, later⟩
        · exact ⟨[], first, rest, rfl, by simp, fails⟩
        · obtain ⟨before, a, behind, split, fine, fails⟩ := ih later
          refine ⟨first :: before, a, behind, by simp [split], ?_, fails⟩
          exact List.forall_mem_cons.mpr ⟨⟨b, passes⟩, fine⟩
  · rintro ⟨before, a, behind, rfl, fine, fails⟩
    induction before with
    | nil => exact mapM_cons_eq_error_iff.mpr (.inl fails)
    | cons first before ih =>
        obtain ⟨⟨b, passes⟩, others⟩ := List.forall_mem_cons.mp fine
        exact mapM_cons_eq_error_iff.mpr (.inr ⟨b, passes, ih others⟩)

end Traversal

namespace Route

variable {pattern : String} {priority : Nat} {handler : Option Handler}

theorem ofPattern_eq_error_iff {error : PatternError} :
    ofPattern pattern priority handler = .error error ↔
      Pattern.compile pattern = .error error := by
  cases compiled : Pattern.compile pattern <;> simp [ofPattern, compiled, Except.map]

theorem exists_ofPattern_iff : (∃ route, ofPattern pattern priority handler = .ok route) ↔
    ∃ candidates, Pattern.compile pattern = .ok candidates := by
  cases compiled : Pattern.compile pattern <;> simp [ofPattern, compiled, Except.map]

theorem pattern_of_ofPattern {route : Route Handler}
    (made : ofPattern pattern priority handler = .ok route) : route.pattern = pattern := by
  cases compiled : Pattern.compile pattern with
  | error error => simp [ofPattern, compiled, Except.map] at made
  | ok candidates =>
      simp only [ofPattern, compiled, Except.map, Except.ok.injEq] at made
      rw [← made]

end Route

theorem Registry.sameRoute_self (route : Route Handler) :
    sameRoute route.scheme route route = true := by
  simp [sameRoute]

namespace World

variable {world : World Handler Callback State} {handle : Handle} {handler : Handler}
  {patterns : List String} {pattern : String} {priority : Nat} {routes : List (Route Handler)}

/-- Registers patterns with priority zero one by one, and goes on when one of them does not
compile. -/
def addEach (world : World Handler Callback State) (handle : Handle) (handler : Handler) :
    List String → List (Except PatternError (Route Handler)) × World Handler Callback State
  | [] => ([], world)
  | pattern :: rest =>
      let added := world.addPattern handle pattern 0 handler
      let others := added.2.addEach handle handler rest
      (added.1 :: others.1, others.2)

section Compiled

variable (compiled :
  patterns.mapM (fun pattern => Route.ofPattern pattern 0 (some handler)) = .ok routes)

include compiled

theorem addEach_of_compiled :
    world.addEach handle handler patterns = (world.addAll handle routes).map (List.map .ok) id := by
  induction patterns generalizing world routes with
  | nil =>
      cases compiled
      rfl
  | cons pattern rest ih =>
      obtain ⟨route, others, made, later, rfl⟩ := mapM_cons_eq_ok_iff.mp compiled
      simp only [addEach, addPattern, made, ih later, addAll, Prod.map, List.map_cons, id_eq]

theorem map_pattern_of_compiled : routes.map Route.pattern = patterns := by
  induction patterns generalizing routes with
  | nil =>
      cases compiled
      rfl
  | cons pattern rest ih =>
      obtain ⟨route, others, made, later, rfl⟩ := mapM_cons_eq_ok_iff.mp compiled
      rw [List.map_cons, Route.pattern_of_ofPattern made, ih later]

end Compiled

/-- Routes that were added are found by what was returned for them. -/
theorem containsRoute_addAll {added : List (Route Handler)} {route : Route Handler}
    (member : route ∈ (world.addAll handle added).1) :
    (world.addAll handle added).2.containsRoute handle route = true := by
  have stored : route ∈ (world.addAll handle added).2.registry.routes handle.scheme := by
    rw [addAll_fst] at member
    rw [routes_addAll, if_pos rfl, (foldl_insertDescending_perm _).mem_iff]
    exact List.mem_append_left _ member
  have stamped : route.scheme = handle.scheme := by
    rw [addAll_fst] at member
    obtain ⟨given, _, rfl⟩ := List.mem_map.mp member
    rfl
  refine List.any_eq_true.mpr ⟨route, stored, ?_⟩
  rw [← stamped]
  exact Registry.sameRoute_self route

/-- An attempt to register `pattern` that fails if it does not compile, with that error, and has
changed nothing then. -/
structure Refusing (world : World Handler Callback State) (pattern : String)
    (result : Except PatternError α × World Handler Callback State) : Prop where
  refused : ∀ error, result.1 = .error error ↔ Pattern.compile pattern = .error error
  unchanged : ∀ error, result.1 = .error error → result.2 = world

theorem refusing_addPattern (world : World Handler Callback State) (handle : Handle)
    (pattern : String) (priority : Nat) (handler : Handler) :
    world.Refusing pattern (world.addPattern handle pattern priority handler) := by
  unfold addPattern
  cases made : Route.ofPattern pattern priority (some handler) with
  | error cause =>
      have failed := Route.ofPattern_eq_error_iff.mp made
      exact ⟨fun error => by simp [failed], fun _ _ => rfl⟩
  | ok route =>
      obtain ⟨candidates, passed⟩ := Route.exists_ofPattern_iff.mp ⟨route, made⟩
      exact ⟨fun error => by simp [passed], nofun⟩

theorem refusing_setRoute (world : World Handler Callback State) (handle : Handle)
    (pattern : String) (handler : Handler) :
    world.Refusing pattern (world.setRoute handle pattern (some handler)) := by
  obtain ⟨refused, unchanged⟩ := world.refusing_addPattern handle pattern 0 handler
  have failing (error : PatternError) :
      (world.setRoute handle pattern (some handler)).1 = .error error ↔
        (world.addPattern handle pattern 0 handler).1 = .error error := by
    simp only [setRoute]
    cases (world.addPattern handle pattern 0 handler).1 <;> simp [Except.map]
  exact ⟨fun error => (failing error).trans (refused error),
    fun error failed => unchanged error ((failing error).mp failed)⟩

/-- Several patterns are registered if all of them compile, and then as they would be one by one.
Otherwise the error of the first that does not compile is told and nothing has changed, as it is
for a single pattern. -/
theorem addPatterns_all_or_none (world : World Handler Callback State) (handle : Handle)
    (patterns : List String) (handler : Handler) :
    let result := world.addPatterns handle patterns handler
    ((∃ routes, result.1 = .ok routes) ↔
      ∀ pattern ∈ patterns, ∃ candidates, Pattern.compile pattern = .ok candidates) ∧
    (∀ error, result.1 = .error error ↔
      ∃ before pattern behind, patterns = before ++ pattern :: behind ∧
        (∀ earlier ∈ before, ∃ candidates, Pattern.compile earlier = .ok candidates) ∧
        Pattern.compile pattern = .error error) ∧
    (∀ error, result.1 = .error error → result.2 = world) ∧
    (∀ routes, result.1 = .ok routes →
      world.addEach handle handler patterns = (routes.map .ok, result.2) ∧
        routes.map Route.pattern = patterns ∧
        ∀ route ∈ routes, result.2.containsRoute handle route = true) ∧
    (∀ pattern priority,
      world.Refusing pattern (world.addPattern handle pattern priority handler)) ∧
    ∀ pattern, (world.setRoute handle pattern none).1 = .ok () ∧
      ∀ handler, world.Refusing pattern (world.setRoute handle pattern (some handler)) := by
  intro result
  have single := (world.refusing_addPattern handle · · handler)
  have keyed (pattern : String) : (world.setRoute handle pattern none).1 = .ok () ∧
      ∀ handler, world.Refusing pattern (world.setRoute handle pattern (some handler)) :=
    ⟨rfl, world.refusing_setRoute handle pattern⟩
  have told : (∃ routes,
      patterns.mapM (fun pattern => Route.ofPattern pattern 0 (some handler)) = .ok routes) ↔
        ∀ pattern ∈ patterns, ∃ candidates, Pattern.compile pattern = .ok candidates := by
    simp only [exists_mapM_eq_ok_iff, Route.exists_ofPattern_iff]
  have refused (error : PatternError) :
      patterns.mapM (fun pattern => Route.ofPattern pattern 0 (some handler)) = .error error ↔
        ∃ before pattern behind, patterns = before ++ pattern :: behind ∧
          (∀ earlier ∈ before, ∃ candidates, Pattern.compile earlier = .ok candidates) ∧
          Pattern.compile pattern = .error error := by
    simp only [mapM_eq_error_iff, Route.exists_ofPattern_iff, Route.ofPattern_eq_error_iff]
  rw [← told]
  simp only [← refused, result, addPatterns]
  cases compiled : patterns.mapM fun pattern => Route.ofPattern pattern 0 (some handler) with
  | error cause => exact ⟨by simp, fun error => by simp, fun _ _ => rfl, nofun, single, keyed⟩
  | ok routes =>
      refine ⟨by simp, fun error => by simp, nofun, ?_, single, keyed⟩
      rintro _ ⟨rfl⟩
      refine ⟨addEach_of_compiled compiled, ?_, fun route => containsRoute_addAll⟩
      rw [addAll_fst, List.map_map, ← map_pattern_of_compiled compiled]
      rfl

end World

end LinkRouting
