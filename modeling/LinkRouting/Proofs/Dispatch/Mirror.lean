import LinkRouting.Proofs.Dispatch.Pairing

namespace LinkRouting

variable {Handler Callback Rich State α : Type}

namespace World

/-- A map of worlds that keeps the registry and all that is done to it, and every signal. -/
structure Faithful (f : World Handler Callback Rich → World Handler Callback State) : Prop where
  registry : ∀ world, (f world).registry = world.registry
  amend : ∀ world change, f (world.amend change) = (f world).amend change
  signal : ∀ world signal, f (world.signal signal) = (f world).signal signal

theorem Faithful.respected [Url.Names]
    {f : World Handler Callback Rich → World Handler Callback State}
    (faithful : Faithful f) : Pairing.same.Respected fun world part => f world = part where
  registry := by
    rintro world _ rfl
    exact (faithful.registry world).symm
  signal := by
    rintro world _ signal other equal rfl
    rw [equal (fun _ _ => id) fun _ _ => id, faithful.signal]

/-- The world in which the application keeps only a part of its state. -/
def mapApp (plain : Rich → State) (world : World Handler Callback Rich) :
    World Handler Callback State :=
  { world with app := plain world.app }

variable (plain : Rich → State)

theorem faithful_mapApp : Faithful (@mapApp Handler Callback _ _ plain) :=
  ⟨fun _ => rfl, fun _ _ => rfl, fun _ _ => rfl⟩

/-- A world goes together with the part of it that `plain` tells. -/
def Shows (world : World Handler Callback Rich) (part : World Handler Callback State) : Prop :=
  world.mapApp plain = part

theorem respected_shows [Url.Names] : Pairing.same.Respected (@Shows Handler Callback _ _ plain) :=
  (faithful_mapApp plain).respected

end World

variable {plain : Rich → State}

/-- `rich` does what `action` does to the part of the state that `plain` tells. -/
def Action.Mirrors (plain : Rich → State) (rich : Action (World Handler Callback Rich) α)
    (action : Action (World Handler Callback State) α) : Prop :=
  ∀ world, (rich world).map id (World.mapApp plain) = action (world.mapApp plain)

theorem Action.mirrors_iff_paired {rich : Action (World Handler Callback Rich) α}
    {action : Action (World Handler Callback State) α} :
    Mirrors plain rich action ↔ Paired (World.Shows plain) rich action := by
  constructor
  · rintro mirrors world _ rfl
    rw [← mirrors world]
    exact ⟨rfl, rfl⟩
  · intro paired world
    obtain ⟨outcome, part⟩ := paired world _ rfl
    exact Prod.ext outcome part

namespace Application

variable {rich : Application Handler Callback Rich} {app : Application Handler Callback State}

/-- Handlers and callbacks of `rich` do what those of `app` do. -/
structure Mirrors (plain : Rich → State) (rich : Application Handler Callback Rich)
    (app : Application Handler Callback State) : Prop where
  handle : ∀ handler params,
    Action.Mirrors plain (rich.handle handler params) (app.handle handler params)
  unmatched : ∀ callback handle source params,
    Action.Mirrors plain (rich.unmatched callback handle source params)
      (app.unmatched callback handle source params)

namespace Mirrors

variable (mirrors : Mirrors plain rich app)

include mirrors

theorem paired [Url.Names] : rich.Paired .same (World.Shows plain) app where
  handle := by
    rintro handler params _ rfl
    exact Action.mirrors_iff_paired.mp (mirrors.handle handler params)
  unmatched := by
    rintro callback handle source _ params _ rfl rfl
    exact Action.mirrors_iff_paired.mp (mirrors.unmatched callback handle source params)

theorem attempt (request : Request) (routes : List (Route Handler)) :
    Action.Mirrors plain (rich.attempt (offers request routes))
      (app.attempt (offers request routes)) :=
  Action.mirrors_iff_paired.mpr
    (mirrors.paired.attempt (World.respected_shows plain)
      ((Pairing.Requests.same request).offers routes))

theorem dispatch (handle : Handle) (entry : Entry Handler Callback) (request : Request) :
    Action.Mirrors plain (rich.dispatch handle entry request)
      (app.dispatch handle entry request) :=
  Action.mirrors_iff_paired.mpr
    (mirrors.paired.dispatch (World.respected_shows plain) (.same request) handle entry)

end Mirrors

end Application

end LinkRouting
