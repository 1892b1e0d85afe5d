import LinkRouting.Router.Target
import LinkRouting.Scenario.Stage

namespace LinkRouting.Scenario

/-! Scenarios are programs, and so are the parts that they cast.  Each step, also one that a handler
takes, has a span of its own, so its signals and calls can be told from those of the steps around
it and inside it.
-/

/-- What is done on the stage. -/
abbrev Act := Program Bound Callback Stage

open Program (ask tell own change)

def describeManager : Act String := do
  let table ← ask .allRoutes Answer.table?
  let options ← ask .readOptions Answer.options?
  pure (options.describeRouter table.keys)

def renderRoutes (handle : Handle) : Act (List String) := do
  let routes ← ask (.routes handle) Answer.routes?
  pure (routes.map Route.render)

def withRouter (name : String) (next : Handle → Act Result) : Act Result := do
  let stage ← own
  match stage.routers.get? name with
  | some handle => next handle
  | none => pure (.noRouter name)

def withRoute (name : String) (next : Route Bound → Act Result) : Act Result := do
  let stage ← own
  match stage.routes.get? name with
  | some route => next route
  | none => pure (.noRoute name)

/-- Goes on with the router called `name`, or if there is no name with that of the URL. -/
def withRouterFor (name : Option String) (url : String) (next : Handle → Act Result) :
    Act Result := do
  match name with
  | some name => withRouter name next
  | none => do
      let handle ← ask (.handleFor url) Answer.handle?
      next handle

def bindRouter (name : Option String) (operation : Operation Bound Callback) : Act Result := do
  let handle ← ask operation Answer.handle?
  change (·.nameRouter name handle)
  let routes ← renderRoutes handle
  pure (.router handle routes)

def listRoutes (handle : Handle) : Act Result := do
  let routes ← renderRoutes handle
  pure (.routes routes)

def listOptions (operation : Operation Bound Callback) : Act Result := do
  tell operation
  let options ← ask .readOptions Answer.options?
  pure (.options options)

def listFallback (handle : Handle) : Act Result := do
  let enabled ← ask (.fallback handle) Answer.flag?
  pure (.flag enabled)

/-- Tells whether a route was removed, and which are left. -/
def removal (handle : Handle) (operation : Operation Bound Callback) : Act Result := do
  let found ← ask operation Answer.flag?
  let routes ← renderRoutes handle
  pure (.removed found routes)

def withdrawal (operation : Operation Bound Callback) : Act Result := do
  tell operation
  let description ← describeManager
  pure (.description description)

def castPart (part : Part) : Act Bound := do
  let stage ← own
  pure (stage.cast part)

def castPart? : Option Part → Act (Option Bound)
  | none => pure none
  | some part => do
      let bound ← castPart part
      pure (some bound)

/-- Takes a step, given what handlers do that are called out of turn. -/
def perform (asked : Bound → Params → Act Bool) : Step → Act Result
  | .bindScheme scheme name => bindRouter name (.routerFor scheme)
  | .bindGlobal name => bindRouter name .globalRouter
  | .bindForUrl url name => bindRouter name (.handleFor url)
  | .hasScheme scheme => do
      let present ← ask (.hasScheme scheme) Answer.flag?
      pure (.flag present)
  | .unregister scheme => withdrawal (.unregister scheme)
  | .unregisterAll => withdrawal .unregisterAll
  | .dump => do
      let table ← ask .allRoutes Answer.table?
      let options ← ask .readOptions Answer.options?
      let routes := table.entries.map fun entry =>
        (entry.1, entry.2.map fun route => (route.scheme, route.render))
      pure (.table routes options (options.describeRouter table.keys))
  | .setOptions options => listOptions (.setOptions options)
  | .setDecodePlus enabled => listOptions (.setDecodePlus enabled)
  | .setHostAsComponent enabled => listOptions (.setHostAsComponent enabled)
  | .route router url params =>
      withRouterFor router url fun handle => do
        let handled ← Program.route handle url params
        pure (.flag handled)
  | .canRoute router url params =>
      withRouterFor router url fun handle => do
        let routable ← ask (.canRoute handle url params) Answer.flag?
        pure (.flag routable)
  | .add router pattern priority part name =>
      withRouter router fun handle => do
        let handler ← castPart part
        match ← ask (.addPattern handle pattern priority handler) Answer.added? with
        | .error error => pure (.refused error)
        | .ok route => do
            change (·.nameRoute name route)
            listRoutes handle
  | .addPatterns router patterns part =>
      withRouter router fun handle => do
        let handler ← castPart part
        let added ← ask (.addPatterns handle patterns handler) Answer.addedAll?
        let routes ← renderRoutes handle
        match added with
        | .error error => pure (.notAdded error routes)
        | .ok stored => pure (.added (stored.map Route.render) routes)
  | .addNothing router => withRouter router fun _ => pure .noHandler
  | .define pattern priority part name => do
      let handler ← castPart? part
      match Route.ofPattern pattern priority handler with
      | .error error => pure (.refused error)
      | .ok route => do
          change (·.nameRoute name route)
          pure (.route route)
  | .addRoute router route name =>
      withRouter router fun handle => withRoute route fun route => do
        let stored ← ask (.addRoute handle route) Answer.route?
        change (·.nameRoute name stored)
        listRoutes handle
  | .setRoute router pattern part =>
      withRouter router fun handle => do
        let handler ← castPart? part
        match ← ask (.setRoute handle pattern handler) Answer.set? with
        | .error error => pure (.refused error)
        | .ok () => listRoutes handle
  | .removeRoute router route =>
      withRouter router fun handle => withRoute route fun route =>
        removal handle (.removeRoute handle route)
  | .removePattern router pattern =>
      withRouter router fun handle => removal handle (.removePattern handle pattern)
  | .removeAll router =>
      withRouter router fun handle => do
        tell (.removeAll handle)
        listRoutes handle
  | .routes router => withRouter router listRoutes
  | .contains router route =>
      withRouter router fun handle => withRoute route fun route => do
        let contained ← ask (.containsRoute handle route) Answer.flag?
        pure (.flag contained)
  | .fallback router => withRouter router listFallback
  | .setFallback router enabled =>
      withRouter router fun handle => do
        tell (.setFallback handle enabled)
        listFallback handle
  | .setUnmatched router callback steps =>
      withRouter router fun handle => do
        tell (.setUnmatched handle ⟨callback, steps⟩)
        pure .nothing
  | .clearUnmatched router =>
      withRouter router fun handle => do
        tell (.clearUnmatched handle)
        pure .nothing
  | .describe route => withRoute route fun route => pure (.route route)
  | .same route other =>
      withRoute route fun route => withRoute other fun other => pure (.flag (route.same other))
  | .call route params =>
      withRoute route fun route => do
        let accepted ← route.call asked params
        pure (.flag accepted)
  | .makeTarget name needs => do
      change (·.makeTarget name needs)
      pure .nothing
  | .dropTarget name => do
      let stage ← own
      change fun stage => { stage with targets := stage.targets.erase name }
      pure (.flag (stage.targets.contains name))

/-- Goes on in a span, and leaves word of that in the log. -/
def enter (span : Nat) : Act Unit := do
  change fun stage => { stage with span }
  tell (.log (.entered span))

/-- Takes one step in a span of its own.  A handler that gives up ends the step and no more. -/
def report (asked : Bound → Params → Act Bool) (step : Step) : Act Report := do
  let outer ← own
  change fun stage => { stage with nextSpan := outer.nextSpan + 1 }
  enter outer.nextSpan
  let result ← (perform asked step).caught
  enter outer.span
  match result with
  | .ok result => pure ⟨outer.nextSpan, result⟩
  | .error message => pure ⟨outer.nextSpan, .panicked message⟩

def reports (asked : Bound → Params → Act Bool) : List Step → Act (List Report)
  | [] => pure []
  | step :: rest => do
      let first ← report asked step
      let others ← reports asked rest
      pure (first :: others)

/-- Takes the steps of a handler, if it has any. -/
def ownReports (asked : Bound → Params → Act Bool) :
    Option (List Step) → Act (Option (List Report))
  | none => pure none
  | some steps => do
      let reports ← reports asked steps
      pure (some reports)

/-- Whether `params` hold what is needed. -/
def satisfies (needs : Option String) (params : Params) : Bool :=
  needs.all params.contains

/-- Plays a part. -/
def play (asked : Bound → Params → Act Bool) (bound : Bound) (params : Params) : Act Bool :=
  match bound.part with
  | .scripted name accepts needs steps panic => do
      let reports ← ownReports asked steps
      let accepted := accepts && satisfies needs params
      change (·.note (.handler name params accepted reports))
      match panic with
      | some message => .panic message
      | none => pure accepted
  | .weak name =>
      forwardTo (fun event => tell (.log event))
        (do
          let stage ← own
          pure (stage.target? name bound.target))
        (fun target params => do
          let accepted := satisfies target.needs params
          change (·.note (.target name params accepted))
          pure accepted)
        params
  | .built name accepts =>
      buildFrom (·.text? "id")
        (fun id => do
          change (·.note (.built name id accepts))
          pure accepts)
        params

/-- Notes a URL that nothing accepted, after the steps of the callback. -/
def playUnmatched (asked : Bound → Params → Act Bool) (callback : Callback) (handle : Handle)
    (url : String) (params : Params) : Act Unit := do
  let reports ← ownReports asked callback.steps
  change (·.note (.unmatched callback.name handle.scheme url params reports))

/-- Handlers that are called out of turn, and call each other so up to `depth` levels deep. -/
def asks : (depth : Nat) → Bound → Params → Act Bool
  | 0 => fun _ _ => .panic "calls nest too deep"
  | depth + 1 => play (asks depth)

def conduct (depth : Nat) : Conduct Bound Callback Stage where
  handle := play (asks depth)
  unmatched := playUnmatched (asks depth)

/-- Runs the steps on a router whose handlers are nested at most `depth` levels deep. -/
def run [Url.Names] (depth : Nat) (steps : List Step) : Action StageWorld (List Report) :=
  (reports (asks depth) steps).run ((conduct depth).application depth)

end LinkRouting.Scenario
