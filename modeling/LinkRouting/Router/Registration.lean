import LinkRouting.Router.World

namespace LinkRouting.World

variable {Handler Callback State : Type}

/-- Registers a route and gives it as it is stored. -/
def addRoute (world : World Handler Callback State) (handle : Handle) (route : Route Handler) :
    Route Handler × World Handler Callback State :=
  let stored := { route with scheme := handle.scheme }
  let world := world.amend (·.addRoute handle.scheme route)
  let world := world.log (.routeRegistered handle.scheme route.pattern route.priority)
  (stored, world.measureRoutes handle.scheme)

def addAll (world : World Handler Callback State) (handle : Handle) :
    List (Route Handler) → List (Route Handler) × World Handler Callback State
  | [] => ([], world)
  | route :: rest =>
      let added := world.addRoute handle route
      let others := added.2.addAll handle rest
      (added.1 :: others.1, others.2)

def addPattern (world : World Handler Callback State) (handle : Handle) (pattern : String)
    (priority : Nat) (handler : Handler) :
    Except PatternError (Route Handler) × World Handler Callback State :=
  match Route.ofPattern pattern priority (some handler) with
  | .error error => (.error error, world)
  | .ok route =>
      let added := world.addRoute handle route
      (.ok added.1, added.2)

/-- Registers several patterns with priority zero, but none of them unless all compile. -/
def addPatterns (world : World Handler Callback State) (handle : Handle)
    (patterns : List String) (handler : Handler) :
    Except PatternError (List (Route Handler)) × World Handler Callback State :=
  match patterns.mapM fun pattern => Route.ofPattern pattern 0 (some handler) with
  | .error error => (.error error, world)
  | .ok routes =>
      let added := world.addAll handle routes
      (.ok added.1, added.2)

/-- Removes the first route that satisfies `wanted`, and tells whether there was one. -/
def removeFirst (world : World Handler Callback State) (handle : Handle)
    (wanted : Route Handler → Bool) : Bool × World Handler Callback State :=
  match (world.registry.routes handle.scheme).find? wanted with
  | none => (false, world)
  | some route =>
      let world := world.amend (·.removeFirst handle.scheme wanted)
      let world := world.log (.routeRemoved handle.scheme route.pattern)
      (true, world.measureRoutes handle.scheme)

def removeRoute (world : World Handler Callback State) (handle : Handle)
    (route : Route Handler) : Bool × World Handler Callback State :=
  world.removeFirst handle (Registry.sameRoute handle.scheme route)

/-- Removes the first route that was registered with this very pattern. -/
def removePattern (world : World Handler Callback State) (handle : Handle) (pattern : String) :
    Bool × World Handler Callback State :=
  world.removeFirst handle fun route => route.pattern = pattern

/-- Removes the routes of the scheme and keeps its settings. -/
def removeAll (world : World Handler Callback State) (handle : Handle) :
    World Handler Callback State :=
  (world.amend (·.adjust handle.scheme fun entry => { entry with routes := [] })).measure
    (.registered handle.scheme 0)

/-- Registers a pattern for a handler.  Without a handler the first route with the pattern is
removed. -/
def setRoute (world : World Handler Callback State) (handle : Handle) (pattern : String)
    (handler : Option Handler) : Except PatternError Unit × World Handler Callback State :=
  match handler with
  | some handler =>
      let added := world.addPattern handle pattern 0 handler
      (added.1.map fun _ => (), added.2)
  | none => (.ok (), (world.removePattern handle pattern).2)

def routes (world : World Handler Callback State) (handle : Handle) : List (Route Handler) :=
  world.registry.routes handle.scheme

def containsRoute (world : World Handler Callback State) (handle : Handle)
    (route : Route Handler) : Bool :=
  world.registry.containsRoute handle.scheme route

def fallback (world : World Handler Callback State) (handle : Handle) : Bool :=
  (world.registry.entry handle.scheme).fallback

def setFallback (world : World Handler Callback State) (handle : Handle) (enabled : Bool) :
    World Handler Callback State :=
  world.amend (·.update handle.scheme fun entry => { entry with fallback := enabled })

def setUnmatched (world : World Handler Callback State) (handle : Handle)
    (callback : Callback) : World Handler Callback State :=
  world.amend (·.update handle.scheme fun entry => { entry with unmatched := some callback })

def clearUnmatched (world : World Handler Callback State) (handle : Handle) :
    World Handler Callback State :=
  world.amend (·.adjust handle.scheme fun entry => { entry with unmatched := none })

end LinkRouting.World
