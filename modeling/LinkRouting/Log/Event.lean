import LinkRouting.Config.Validation

namespace LinkRouting.Log

inductive Level where
  | error
  | warn
  | info
  | debug
  | trace
deriving DecidableEq, Repr

namespace Level

def name : Level → String
  | error => "ERROR"
  | warn => "WARN"
  | info => "INFO"
  | debug => "DEBUG"
  | trace => "TRACE"

/-- How much is logged when everything up to the level is. -/
def verbosity : Level → Nat
  | error => 1
  | warn => 2
  | info => 3
  | debug => 4
  | trace => 5

end Level

/-- What a field holds.  Texts are quoted in lines for readers unless they are `bare`. -/
inductive Field where
  | quoted (text : String)
  | bare (text : String)
  | number (value : Nat)
deriving DecidableEq, Repr

inductive Event where
  | unparseableUrl (scheme url : String) (error : UrlError)
  | routeMatched (scheme pattern : String) (priority : Nat)
  | handlerDeclined (scheme pattern : String)
  | fallingBack (scheme url : String)
  | unhandledUrl (scheme url : String)
  | targetDropped (pattern : String)
  | routeRegistered (scheme pattern : String) (priority : Nat)
  | routeRemoved (scheme pattern : String)
  | schemeUnregistered (scheme : String)
  | allSchemesUnregistered
  | invalidConfig (problem : Config.Problem)
  | tableLoaded (schemes routes : Nat)
  | configLoaded (path : String) (schemes : Nat)
  | handlersBound (targets : Nat)
  | unmatchedUrl (scheme url : String)
  /-- Another part of the application's own work goes on from here. -/
  | entered (part : Nat)
deriving DecidableEq, Repr

namespace Event

def level : Event → Level
  | invalidConfig .. | unmatchedUrl .. => .warn
  | tableLoaded .. => .info
  | entered .. => .trace
  | _ => .debug

def message : Event → String
  | unparseableUrl .. => "Ignoring unparseable URL"
  | routeMatched .. => "Route matched"
  | handlerDeclined .. => "Route handler declined"
  | fallingBack .. => "Falling back to global routes"
  | unhandledUrl .. => "No route handled URL"
  | targetDropped .. => "Route target dropped, declining"
  | routeRegistered .. => "Route registered"
  | routeRemoved .. => "Route removed"
  | schemeUnregistered .. => "Scheme unregistered"
  | allSchemesUnregistered => "All schemes unregistered"
  | invalidConfig .. => "Invalid route configuration"
  | tableLoaded .. => "Route table loaded"
  | configLoaded .. => "Configuration loaded"
  | handlersBound .. => "Handlers bound"
  | unmatchedUrl .. => "Unmatched URL"
  | entered .. => "Entered"

def fields : Event → List (String × Field)
  | unparseableUrl scheme url error =>
      [("scheme", .bare scheme), ("url", .quoted url), ("error", .bare error.message)]
  | routeMatched scheme pattern priority =>
      [("scheme", .quoted scheme), ("pattern", .quoted pattern), ("priority", .number priority)]
  | handlerDeclined scheme pattern => [("scheme", .quoted scheme), ("pattern", .quoted pattern)]
  | fallingBack scheme url | unhandledUrl scheme url | unmatchedUrl scheme url =>
      [("scheme", .bare scheme), ("url", .quoted url)]
  | targetDropped pattern => [("pattern", .quoted pattern)]
  | routeRegistered scheme pattern priority =>
      [("scheme", .bare scheme), ("pattern", .quoted pattern), ("priority", .number priority)]
  | routeRemoved scheme pattern => [("scheme", .bare scheme), ("pattern", .quoted pattern)]
  | schemeUnregistered scheme => [("scheme", .bare scheme)]
  | allSchemesUnregistered => []
  | invalidConfig problem => [("error", .bare problem.message)]
  | tableLoaded schemes routes => [("schemes", .number schemes), ("routes", .number routes)]
  | configLoaded path schemes => [("config", .bare path), ("schemes", .number schemes)]
  | handlersBound targets => [("targets", .number targets)]
  | entered part => [("part", .number part)]

/-- Whether an event has a field.  The message is one. -/
def has (event : Event) (name : String) : Bool :=
  name ∈ "message" :: event.fields.map (·.1)

/-- The part of the program that an event comes from, which filters go by. -/
def origin : Event → String
  | configLoaded .. | handlersBound .. | unmatchedUrl .. => "deeplink_router"
  | invalidConfig .. => "deeplink_router::config::validation"
  | targetDropped .. => "deeplink_router::routing::handler"
  | entered .. => "application"
  | _ => "deeplink_router::routing::router"

end Event

end LinkRouting.Log
