import LinkRouting.Proofs.Ledger

namespace LinkRouting

/-! Which stored routes a route stands for.  A registered route stands for those of its own scheme
with its pattern and its priority, and one without a scheme for those of any scheme.  The latter
is meant for routes that are not registered, but a scheme may have the empty name, and then its
routes are taken for such.
-/

variable {Handler Callback State α : Type}

namespace Route

/-- Whether a stored route has the pattern and the priority of `route`. -/
def alike (route stored : Route Handler) : Bool :=
  stored.pattern = route.pattern && stored.priority = route.priority

/-- Whether `route` can stand for any of the routes of a router at all. -/
def PertainsTo (route : Route Handler) (handle : Handle) : Prop :=
  route.scheme = "" ∨ route.scheme = handle.scheme

instance (route : Route Handler) (handle : Handle) : Decidable (route.PertainsTo handle) :=
  inferInstanceAs (Decidable (_ ∨ _))

@[simp] theorem alike_stamped (route : Route Handler) (scheme : String) :
    alike { route with scheme } = route.alike :=
  rfl

end Route

theorem Registry.sameRoute_eq {handle : Handle} {route stored : Route Handler}
    (stamped : stored.scheme = handle.scheme) : sameRoute handle.scheme route stored =
      (decide (route.PertainsTo handle) && route.alike stored) := by
  by_cases unregistered : route.scheme = ""
  · simp [sameRoute, Route.PertainsTo, Route.alike, stamped, unregistered]
  · simp [sameRoute, Route.PertainsTo, Route.alike, stamped, unregistered, eq_comm,
      Bool.and_assoc]

namespace World

variable {world : World Handler Callback State} {handle : Handle} {route : Route Handler}
  {wanted other : Route Handler → Bool}

/-- What is stored for the scheme of a router has that scheme. -/
def Stamped (world : World Handler Callback State) (handle : Handle) : Prop :=
  ∀ stored ∈ world.registry.routes handle.scheme, stored.scheme = handle.scheme

theorem removeFirst_of_none
    (none : ∀ stored ∈ world.registry.routes handle.scheme, wanted stored = false) :
    world.removeFirst handle wanted = (false, world) := by
  have missing : (world.registry.routes handle.scheme).find? wanted = Option.none :=
    List.find?_eq_none.mpr fun stored member => by simp [none stored member]
  simp only [removeFirst, missing]

theorem removeFirst_congr
    (same : ∀ stored ∈ world.registry.routes handle.scheme, wanted stored = other stored) :
    world.removeFirst handle wanted = world.removeFirst handle other := by
  have erased : world.registry.removeFirst handle.scheme wanted =
      world.registry.removeFirst handle.scheme other := by
    have routes := eraseP_congr same
    simp only [Registry.routes] at routes
    simp only [Registry.removeFirst, Registry.adjust, Registry.update, routes]
  simp only [removeFirst, List.find?_congr same, amend, erased]

namespace Stamped

variable (stamped : world.Stamped handle)

include stamped

theorem containsRoute_eq (route : Route Handler) : world.containsRoute handle route =
    (decide (route.PertainsTo handle) && (world.routes handle).any route.alike) := by
  have told : ∀ stored ∈ world.registry.routes handle.scheme,
      Registry.sameRoute handle.scheme route stored =
        (decide (route.PertainsTo handle) && route.alike stored) :=
    fun stored member => Registry.sameRoute_eq (stamped stored member)
  rw [Bool.eq_iff_iff]
  simp only [containsRoute, Registry.containsRoute, routes, List.any_eq_true, Bool.and_eq_true]
  constructor
  · rintro ⟨stored, member, same⟩
    rw [told stored member, Bool.and_eq_true] at same
    exact ⟨same.1, stored, member, same.2⟩
  · rintro ⟨pertains, stored, member, alike⟩
    exact ⟨stored, member, by rw [told stored member, pertains, alike]; rfl⟩

/-- A route is removed through a router as one that is alike, if it pertains to the router. -/
theorem removeRoute_eq (route : Route Handler) : world.removeRoute handle route =
    if route.PertainsTo handle then world.removeFirst handle route.alike else (false, world) := by
  split
  · rename_i pertains
    refine removeFirst_congr fun stored member => ?_
    simp [Registry.sameRoute_eq (stamped stored member), pertains]
  · rename_i strange
    refine removeFirst_of_none fun stored member => ?_
    simp [Registry.sameRoute_eq (stamped stored member), strange]

end Stamped

end World

/-- The router through which routes are registered that the answer gives back. -/
def Operation.registrar? : Operation Handler Callback → Option Handle
  | .addRoute handle _ | .addPattern handle .. | .addPatterns handle .. => some handle
  | _ => none

/-- The routes that are given back as they were registered. -/
def Answer.stored : Answer Handler → List (Route Handler)
  | .route stored | .added (.ok stored) => [stored]
  | .addedAll (.ok stored) => stored
  | _ => []

theorem Operation.answer_of_registrar {operation : Operation Handler Callback} {handle : Handle}
    (registers : operation.registrar? = some handle) (live : String → List (Route Handler)) :
    ∃ answer, operation.answer? live = some answer ∧
      ∀ route ∈ answer.stored, route.scheme = handle.scheme := by
  cases operation with
  | addRoute router route =>
      cases registers
      exact ⟨_, rfl, by simp [Answer.stored]⟩
  | addPattern router pattern priority handler =>
      cases registers
      refine ⟨_, rfl, ?_⟩
      cases Route.ofPattern pattern priority (some handler) <;> simp [Except.map, Answer.stored]
  | addPatterns router patterns handler =>
      cases registers
      refine ⟨_, rfl, ?_⟩
      cases patterns.mapM fun pattern => Route.ofPattern pattern 0 (some handler) <;>
        simp [Except.map, Answer.stored]
  | _ => cases registers

namespace Balanced

variable {world : StoryWorld Handler Callback State} (balanced : Balanced world)

include balanced

theorem stamped (handle : Handle) : World.Stamped world handle := by
  intro stored member
  have live := (balanced.ranked handle.scheme).mem_iff.mp member
  exact scheme_of_mem_ledger world.app.past stored live

theorem scheme_of_registered {operation : Operation Handler Callback} {answer : Answer Handler}
    (used : .used operation answer ∈ world.app.past) {handle : Handle}
    (registers : operation.registrar? = some handle) :
    ∀ route ∈ answer.stored, route.scheme = handle.scheme := by
  obtain ⟨later, earlier, split⟩ := List.mem_iff_append.mp used
  obtain ⟨expected, told, schemes⟩ := operation.answer_of_registrar registers (ledger · earlier)
  rw [balanced.answered operation answer earlier ⟨later, split.symm⟩ expected told]
  exact schemes

end Balanced

/-- A route that was registered through one router is none of those of another, which it leaves
alone.  It is taken for theirs if and only if the first router has the empty name. -/
theorem removeRoute_strange [Url.Names] (conduct : Conduct Handler Callback State)
    (options : Options) (own : State) (depth : Nat) (program : Program Handler Callback State α) :
    let world := (program.run (conduct.application depth) (.fresh options ⟨own, []⟩)).2
    ∀ operation answer handle, .used operation answer ∈ world.app.past →
      operation.registrar? = some handle → ∀ route ∈ answer.stored,
      ∀ other : Handle, other.scheme ≠ handle.scheme →
        if handle.scheme = "" then
          world.containsRoute other route = (world.routes other).any route.alike ∧
            world.removeRoute other route = world.removeFirst other route.alike
        else
          world.containsRoute other route = false ∧
            world.removeRoute other route = (false, world) := by
  intro world operation answer handle used registers route given other different
  have balanced : Balanced world :=
    program.run_balanced (conduct.keeps_balanced depth) _ (.fresh options own)
  have scheme := balanced.scheme_of_registered used registers route given
  have stamped := balanced.stamped other
  rw [stamped.containsRoute_eq, stamped.removeRoute_eq]
  split
  · rename_i nameless
    have pertains : route.PertainsTo other := .inl (scheme.trans nameless)
    simp [pertains]
  · rename_i named
    have strange : ¬route.PertainsTo other := by
      simp only [Route.PertainsTo, scheme, not_or]
      exact ⟨named, different.symm⟩
    simp [strange]

/-- Registers the same pattern through two routers. -/
def twice (first second : Handle) : Program Unit Unit Unit Unit :=
  .use (.addPattern first "/a" 0 ()) fun _ =>
  .use (.addPattern second "/a" 0 ()) fun _ => .done ()

def accepting : Conduct Unit Unit Unit := ⟨fun _ _ => .done true, fun _ _ _ _ => .done ()⟩

theorem removeRoute_strange_twice :
    let world := ((twice ⟨"app"⟩ ⟨"web"⟩).run (accepting.application 0) (.fresh {} ⟨(), []⟩)).2
    ∃ answer, .used (.addPattern ⟨"app"⟩ "/a" 0 ()) answer ∈ world.app.past ∧
      ∃ route ∈ answer.stored, (world.routes ⟨"web"⟩).any route.alike = true ∧
        world.containsRoute ⟨"web"⟩ route = false ∧
        world.removeRoute ⟨"web"⟩ route = (false, world) := by
  intro world
  let route : Route Unit := ⟨"app", "/a", 0, [PathPattern.ofString "/a"], some ()⟩
  have stored : (world.routes ⟨"web"⟩).any route.alike = true := by decide +kernel
  have used : .used (.addPattern ⟨"app"⟩ "/a" 0 ()) (.added (.ok route)) ∈ world.app.past :=
    List.mem_cons_of_mem _ List.mem_cons_self
  obtain ⟨absent, untouched⟩ := removeRoute_strange accepting {} () 0 (twice ⟨"app"⟩ ⟨"web"⟩)
    _ _ ⟨"app"⟩ used rfl route (by simp [Answer.stored]) ⟨"web"⟩ (by decide)
  exact ⟨_, used, route, by simp [Answer.stored], stored, absent, untouched⟩

/-- A route of the scheme with the empty name is found among the routes of another, and removing it
there takes away the other's. -/
theorem nameless_route_removes :
    let nameless : Handle := ⟨""⟩
    let world := ((twice nameless ⟨"app"⟩).run (accepting.application 0) (.fresh {} ⟨(), []⟩)).2
    Handle.ofName "" = nameless ∧ nameless.scheme ≠ "app" ∧
      ∃ answer, .used (.addPattern nameless "/a" 0 ()) answer ∈ world.app.past ∧
        ∃ route ∈ answer.stored, world.containsRoute ⟨"app"⟩ route = true ∧
          (world.removeRoute ⟨"app"⟩ route).1 = true ∧
          (world.routes ⟨"app"⟩).length = 1 ∧
          ((world.removeRoute ⟨"app"⟩ route).2.routes ⟨"app"⟩).length = 0 := by
  intro nameless world
  let route : Route Unit := ⟨"", "/a", 0, [PathPattern.ofString "/a"], some ()⟩
  have used : .used (.addPattern nameless "/a" 0 ()) (.added (.ok route)) ∈ world.app.past :=
    List.mem_cons_of_mem _ List.mem_cons_self
  have named : Handle.ofName "" = nameless := by decide +kernel
  refine ⟨named, by decide, _, used, route, by simp [Answer.stored], ?_⟩
  decide +kernel

end LinkRouting
