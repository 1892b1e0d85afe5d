import LinkRouting.Proofs.Dispatch.Mirror
import LinkRouting.Proofs.Program
import LinkRouting.Proofs.Registry

namespace LinkRouting

/-! All that an operation does to a world is to amend the registry and to give signals, and the
registry alone decides how.  So the registry that a run leaves is the one that its completed
operations make when they are repeated elsewhere.
-/

variable {Handler Callback State Twin α : Type}

namespace World

@[simp] theorem registry_amend (world : World Handler Callback State)
    (change : Registry Handler Callback → Registry Handler Callback) :
    (world.amend change).registry = change world.registry :=
  rfl

@[simp] theorem registry_signal (world : World Handler Callback State) (signal : Signal) :
    (world.signal signal).registry = world.registry :=
  rfl

namespace Faithful

variable {f : World Handler Callback State → World Handler Callback Twin} (faithful : Faithful f)
  (world : World Handler Callback State) (handle : Handle)

include faithful

theorem addRoute (route : Route Handler) :
    (f world).addRoute handle route = (world.addRoute handle route).map id f := by
  simp only [World.addRoute, measureRoutes, log, measure, Prod.map, id_eq, faithful.signal,
    faithful.amend, registry_signal, registry_amend, faithful.registry]

theorem addAll (added : List (Route Handler)) :
    (f world).addAll handle added = (world.addAll handle added).map id f := by
  induction added generalizing world with
  | nil => rfl
  | cons route rest ih =>
      simp only [World.addAll, faithful.addRoute, Prod.map, id_eq, ih]

theorem removeFirst (wanted : Route Handler → Bool) :
    (f world).removeFirst handle wanted = (world.removeFirst handle wanted).map id f := by
  unfold World.removeFirst
  rw [faithful.registry]
  split
  · rfl
  · simp only [measureRoutes, log, measure, Prod.map, id_eq, faithful.signal, faithful.amend,
      registry_signal, registry_amend, faithful.registry]

theorem addPattern (pattern : String) (priority : Nat) (handler : Handler) :
    (f world).addPattern handle pattern priority handler =
      (world.addPattern handle pattern priority handler).map id f := by
  unfold World.addPattern
  split
  · rfl
  · rw [faithful.addRoute]
    rfl

theorem addPatterns (patterns : List String) (handler : Handler) :
    (f world).addPatterns handle patterns handler =
      (world.addPatterns handle patterns handler).map id f := by
  unfold World.addPatterns
  split
  · rfl
  · rw [faithful.addAll]
    rfl

theorem canRoute [Url.Names] (source : String) (params : Params) :
    (f world).canRoute handle source params = (world.canRoute handle source params).map id f := by
  unfold World.canRoute
  split
  · exact congrArg (Prod.mk false) (faithful.signal ..).symm
  · rename_i url _
    have request : (f world).request source url params = world.request source url params := by
      rw [World.request, faithful.registry, World.request]
    have routes : (f world).routes handle = world.routes handle := by
      rw [World.routes, faithful.registry, World.routes]
    have leave : (f world).fallsBack handle = world.fallsBack handle := by
      rw [World.fallsBack, World.fallback, faithful.registry, World.fallsBack, World.fallback]
    rw [request, routes, leave, faithful.registry]
    dsimp only
    split
    · rfl
    · split
      · exact congrArg (Prod.mk _) (faithful.signal ..).symm
      · rfl

/-- Operations cannot tell a world from its image. -/
theorem perform [Url.Names] (operation : Operation Handler Callback) :
    operation.perform (f world) = (operation.perform world).map id f := by
  cases operation with
  | addRoute handle route =>
      simp only [Operation.perform, faithful.addRoute]
      rfl
  | addPattern handle pattern priority handler =>
      simp only [Operation.perform, faithful.addPattern]
      rfl
  | addPatterns handle patterns handler =>
      simp only [Operation.perform, faithful.addPatterns]
      rfl
  | setRoute handle pattern handler =>
      cases handler with
      | none =>
          simp only [Operation.perform, World.setRoute, World.removePattern, faithful.removeFirst]
          rfl
      | some handler =>
          simp only [Operation.perform, World.setRoute, faithful.addPattern]
          rfl
  | removeRoute handle route =>
      simp only [Operation.perform, World.removeRoute, faithful.removeFirst]
      rfl
  | removePattern handle pattern =>
      simp only [Operation.perform, World.removePattern, faithful.removeFirst]
      rfl
  | canRoute handle source params =>
      simp only [Operation.perform, faithful.canRoute]
      rfl
  | _ =>
      simp [Operation.perform, World.routerFor, World.globalRouter, World.hasScheme,
        World.unregister, World.unregisterAll, World.setOptions, World.setDecodePlus,
        World.setHostAsComponent, World.removeAll, World.routes, World.containsRoute,
        World.fallback, World.setFallback, World.setUnmatched, World.clearUnmatched, log, measure,
        faithful.registry, faithful.amend, faithful.signal]

end Faithful

end World

/-- A world with this registry, in which nothing was signalled yet. -/
def Registry.bare (registry : Registry Handler Callback) : World Handler Callback Unit :=
  { registry, journal := [], app := () }

/-- What an operation makes of a registry. -/
def Operation.amend [Url.Names] (registry : Registry Handler Callback)
    (operation : Operation Handler Callback) : Registry Handler Callback :=
  (operation.perform registry.bare).2.registry

/-- What the operations that were completed make of a registry, the latest deed coming first. -/
def replay [Url.Names] (start : Registry Handler Callback) :
    List (Deed Handler Callback) → Registry Handler Callback
  | [] => start
  | .used operation _ :: earlier => operation.amend (replay start earlier)
  | .dispatched .. :: earlier => replay start earlier

namespace World

/-- What has come to be in `later`, as if it had begun in `world`. -/
def resume (world : World Handler Callback State) (app : Twin → State)
    (later : World Handler Callback Twin) : World Handler Callback State :=
  { registry := later.registry
    journal := later.journal ++ world.journal
    app := app later.app }

theorem faithful_resume (world : World Handler Callback State) (app : Twin → State) :
    Faithful (world.resume app : World Handler Callback Twin → World Handler Callback State) :=
  ⟨fun _ => rfl, fun _ _ => rfl, fun _ _ => rfl⟩

end World

namespace Operation

variable {operation : Operation Handler Callback} {world : World Handler Callback State}

theorem perform_eq [Url.Names] : operation.perform world =
    (operation.perform world.registry.bare).map id (world.resume fun _ => world.app) :=
  (world.faithful_resume fun _ => world.app).perform world.registry.bare operation

theorem registry_perform [Url.Names] : (operation.perform world).2.registry =
    operation.amend world.registry := by
  rw [perform_eq]
  rfl

theorem app_perform [Url.Names] : (operation.perform world).2.app = world.app := by
  rw [perform_eq]
  rfl

theorem perform_of_registry [Url.Names] {twin : World Handler Callback Twin}
    (same : world.registry = twin.registry) :
    (operation.perform world).1 = (operation.perform twin).1 ∧
      (operation.perform world).2.registry = (operation.perform twin).2.registry := by
  rw [registry_perform, registry_perform, perform_eq, same]
  exact ⟨(congrArg Prod.fst perform_eq).symm, rfl⟩

end Operation

/-- Whatever a run goes through, its completed operations made the registry what it is. -/
theorem StoryWorld.lasting_replay [Url.Names] (start : Registry Handler Callback) :
    Lasting fun world : StoryWorld Handler Callback State =>
      world.registry = replay start world.app.past where
  unheard _ _ _ same := same
  work _ _ same := same
  use world operation same := by
    change (operation.perform world).2.registry =
      operation.amend (replay start (operation.perform world).2.app.past)
    rw [Operation.app_perform, ← same, Operation.registry_perform]
  dispatched _ _ _ _ same := same

end LinkRouting
