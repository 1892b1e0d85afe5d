import LinkRouting.Router.Dispatch

namespace LinkRouting

variable {Handler Callback State : Type}

/-- A use of the router that calls no handler. -/
inductive Operation (Handler Callback : Type) where
  | routerFor (name : String)
  | globalRouter
  | handleFor (source : String)
  | hasScheme (name : String)
  | allRoutes
  | unregister (name : String)
  | unregisterAll
  | readOptions
  | setOptions (options : Options)
  | setDecodePlus (enabled : Bool)
  | setHostAsComponent (enabled : Bool)
  | addRoute (handle : Handle) (route : Route Handler)
  | addPattern (handle : Handle) (pattern : String) (priority : Nat) (handler : Handler)
  | addPatterns (handle : Handle) (patterns : List String) (handler : Handler)
  | setRoute (handle : Handle) (pattern : String) (handler : Option Handler)
  | removeRoute (handle : Handle) (route : Route Handler)
  | removePattern (handle : Handle) (pattern : String)
  | removeAll (handle : Handle)
  | routes (handle : Handle)
  | containsRoute (handle : Handle) (route : Route Handler)
  | fallback (handle : Handle)
  | setFallback (handle : Handle) (enabled : Bool)
  | setUnmatched (handle : Handle) (callback : Callback)
  | clearUnmatched (handle : Handle)
  | canRoute (handle : Handle) (source : String) (params : Params)
  | log (event : Log.Event)

inductive Answer (Handler : Type) where
  | nothing
  | flag (value : Bool)
  | handle (handle : Handle)
  | options (options : Options)
  | route (stored : Route Handler)
  | added (result : Except PatternError (Route Handler))
  | addedAll (result : Except PatternError (List (Route Handler)))
  | set (result : Except PatternError Unit)
  | routes (routes : List (Route Handler))
  | table (routes : Dictionary (List (Route Handler)))

namespace Answer

def flag? : Answer Handler → Option Bool
  | .flag value => some value
  | _ => none

def handle? : Answer Handler → Option Handle
  | .handle made => some made
  | _ => none

def options? : Answer Handler → Option Options
  | .options current => some current
  | _ => none

def route? : Answer Handler → Option (Route Handler)
  | .route stored => some stored
  | _ => none

def added? : Answer Handler → Option (Except PatternError (Route Handler))
  | .added result => some result
  | _ => none

def addedAll? : Answer Handler → Option (Except PatternError (List (Route Handler)))
  | .addedAll result => some result
  | _ => none

def set? : Answer Handler → Option (Except PatternError Unit)
  | .set result => some result
  | _ => none

def routes? : Answer Handler → Option (List (Route Handler))
  | .routes stored => some stored
  | _ => none

def table? : Answer Handler → Option (Dictionary (List (Route Handler)))
  | .table stored => some stored
  | _ => none

end Answer

namespace Operation

/-- What an operation answers, and the world after it. -/
def perform [Url.Names] (world : World Handler Callback State) :
    Operation Handler Callback → Answer Handler × World Handler Callback State
  | .routerFor name => (world.routerFor name).map .handle id
  | .globalRouter => world.globalRouter.map .handle id
  | .handleFor source => (.handle (world.registry.handleFor source), world)
  | .hasScheme name => (.flag (world.hasScheme name), world)
  | .allRoutes => (.table (world.registry.table.mapValues Entry.routes), world)
  | .unregister name => (.nothing, world.unregister name)
  | .unregisterAll => (.nothing, world.unregisterAll)
  | .readOptions => (.options world.registry.options, world)
  | .setOptions options => (.nothing, world.setOptions options)
  | .setDecodePlus enabled => (.nothing, world.setDecodePlus enabled)
  | .setHostAsComponent enabled => (.nothing, world.setHostAsComponent enabled)
  | .addRoute handle route => (world.addRoute handle route).map .route id
  | .addPattern handle pattern priority handler =>
      (world.addPattern handle pattern priority handler).map .added id
  | .addPatterns handle patterns handler =>
      (world.addPatterns handle patterns handler).map .addedAll id
  | .setRoute handle pattern handler => (world.setRoute handle pattern handler).map .set id
  | .removeRoute handle route => (world.removeRoute handle route).map .flag id
  | .removePattern handle pattern => (world.removePattern handle pattern).map .flag id
  | .removeAll handle => (.nothing, world.removeAll handle)
  | .routes handle => (.routes (world.routes handle), world)
  | .containsRoute handle route => (.flag (world.containsRoute handle route), world)
  | .fallback handle => (.flag (world.fallback handle), world)
  | .setFallback handle enabled => (.nothing, world.setFallback handle enabled)
  | .setUnmatched handle callback => (.nothing, world.setUnmatched handle callback)
  | .clearUnmatched handle => (.nothing, world.clearUnmatched handle)
  | .canRoute handle source params => (world.canRoute handle source params).map .flag id
  | .log event => (.nothing, world.log event)

end Operation

end LinkRouting
