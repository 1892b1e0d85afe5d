import LinkRouting.Router.Action
import LinkRouting.Router.Registration

namespace LinkRouting

/-! Dispatching URLs.  The routes that match are tried in order until a handler accepts.  What
is tried, and whether the global routes follow, is settled when the dispatch begins, whatever
handlers change meanwhile; the global routes are looked up when their turn comes.
-/

/-- What an application does with its handlers and callbacks.  Both may use the world as they
like, and with it the router that calls them. -/
structure Application (Handler Callback State : Type) where
  /-- Whether the handler accepts. -/
  handle : Handler → Params → Action (World Handler Callback State) Bool
  /-- What the callback does about a URL that nothing accepted. -/
  unmatched : Callback → Handle → String → Params → Action (World Handler Callback State) Unit

namespace World

variable {Handler Callback State : Type}

def request (world : World Handler Callback State) (source : String) (url : Url)
    (params : Params) : Request :=
  .ofUrl source url world.registry.options params

/-- Whether the router goes on with the global routes. -/
def fallsBack (world : World Handler Callback State) (handle : Handle) : Bool :=
  world.fallback handle && !handle.isGlobal

end World

namespace Application

variable {Handler Callback State : Type}

/-- Asks the handler of a route. -/
def accept (app : Application Handler Callback State) (route : Route Handler) (params : Params) :
    Action (World Handler Callback State) Bool :=
  route.call app.handle params

/-- Tries routes in their order until one accepts. -/
def walk (app : Application Handler Callback State) (request : Request) :
    List (Route Handler) → Action (World Handler Callback State) Bool
  | [] => pure false
  | route :: rest =>
      match route.respond request with
      | none => app.walk request rest
      | some params => do
          let matched := params.pattern?.getD ""
          Action.modify (·.log (.routeMatched route.scheme matched route.priority))
          if ← app.accept route params then
            pure true
          else do
            Action.modify fun world =>
              (world.log (.handlerDeclined route.scheme route.pattern)).measure
                (.declined route.scheme)
            app.walk request rest

/-- Tries the global routes as they are registered now. -/
def walkGlobal (app : Application Handler Callback State) (handle : Handle) (request : Request) :
    Action (World Handler Callback State) Bool := do
  Action.modify (·.log (.fallingBack handle.scheme request.source))
  let world ← Action.get
  app.walk request (world.registry.routes globalScheme)

/-- Routes a request, given what `entry` registered for the router's scheme. -/
def dispatch (app : Application Handler Callback State) (handle : Handle)
    (entry : Entry Handler Callback) (request : Request) :
    Action (World Handler Callback State) Bool := do
  let own ← app.walk request entry.routes
  let handled ←
    if !own && entry.fallback && !handle.isGlobal then app.walkGlobal handle request
    else pure own
  if handled then do
    Action.modify (·.measure (.dispatched handle.scheme .handled))
    pure true
  else do
    Action.modify fun world =>
      (world.log (.unhandledUrl handle.scheme request.source)).measure
        (.dispatched handle.scheme .unmatched)
    match entry.unmatched with
    | none => pure false
    | some callback => do
        app.unmatched callback handle request.source request.additional
        pure false

/-- Routes `source` through one router.  The result tells whether a handler accepted it. -/
def route [Url.Names] (app : Application Handler Callback State) (handle : Handle) (source : String)
    (params : Params) : Action (World Handler Callback State) Bool := do
  match Url.parse source with
  | .error error => do
      Action.modify fun world =>
        (world.log (.unparseableUrl handle.scheme source error)).measure
          (.dispatched handle.scheme .invalidUrl)
      pure false
  | .ok url => do
      let world ← Action.get
      app.dispatch handle (world.registry.entry handle.scheme) (world.request source url params)

/-- Routes `source` through the router of its scheme. -/
def routeAny [Url.Names] (app : Application Handler Callback State) (source : String)
    (params : Params) : Action (World Handler Callback State) Bool := do
  let world ← Action.get
  app.route (world.registry.handleFor source) source params

end Application

namespace World

variable {Handler Callback State : Type}

def anyMatches (routes : List (Route Handler)) (request : Request) : Bool :=
  routes.any fun route => (route.respond request).isSome

/-- Whether a route would be tried for `source`.  No handler is asked, and nothing but the log
changes. -/
def canRoute [Url.Names] (world : World Handler Callback State) (handle : Handle) (source : String)
    (params : Params) : Bool × World Handler Callback State :=
  match Url.parse source with
  | .error error => (false, world.log (.unparseableUrl handle.scheme source error))
  | .ok url =>
      let request := world.request source url params
      if anyMatches (world.routes handle) request then (true, world)
      else if world.fallsBack handle then
        (anyMatches (world.registry.routes globalScheme) request,
          world.log (.fallingBack handle.scheme source))
      else (false, world)

/-- Whether a route would be tried for `source` by the router of its scheme. -/
def canRouteAny [Url.Names] (world : World Handler Callback State) (source : String)
    (params : Params) : Bool × World Handler Callback State :=
  world.canRoute (world.registry.handleFor source) source params

end World

end LinkRouting
