import LinkRouting.Log.Event
import LinkRouting.Router.Metric
import LinkRouting.Router.Registry

namespace LinkRouting

inductive Signal where
  | logged (event : Log.Event)
  | measured (metric : Metric)
deriving DecidableEq, Repr

structure World (Handler Callback State : Type) where
  registry : Registry Handler Callback
  /-- The signals given so far, the latest first. -/
  journal : List Signal
  app : State

namespace World

variable {Handler Callback State : Type}

def fresh (options : Options) (app : State) : World Handler Callback State :=
  { registry := .fresh options, journal := [], app }

def signal (world : World Handler Callback State) (signal : Signal) :
    World Handler Callback State :=
  { world with journal := signal :: world.journal }

def log (world : World Handler Callback State) (event : Log.Event) :
    World Handler Callback State :=
  world.signal (.logged event)

def measure (world : World Handler Callback State) (metric : Metric) :
    World Handler Callback State :=
  world.signal (.measured metric)

/-- Changes the registry and gives no signal. -/
def amend (world : World Handler Callback State)
    (change : Registry Handler Callback → Registry Handler Callback) :
    World Handler Callback State :=
  { world with registry := change world.registry }

def measureRoutes (world : World Handler Callback State) (scheme : String) :
    World Handler Callback State :=
  world.measure (.registered scheme (world.registry.routes scheme).length)

def setOptions (world : World Handler Callback State) (options : Options) :
    World Handler Callback State :=
  world.amend fun registry => { registry with options }

def setDecodePlus (world : World Handler Callback State) (enabled : Bool) :
    World Handler Callback State :=
  world.setOptions { world.registry.options with decodePlus := enabled }

def setHostAsComponent (world : World Handler Callback State) (enabled : Bool) :
    World Handler Callback State :=
  world.setOptions { world.registry.options with hostAsComponent := enabled }

/-- The router of a scheme, which is registered by that. -/
def routerFor (world : World Handler Callback State) (name : String) :
    Handle × World Handler Callback State :=
  let handle := Handle.ofName name
  (handle, world.amend (·.ensure handle.scheme))

def globalRouter (world : World Handler Callback State) :
    Handle × World Handler Callback State :=
  world.routerFor globalScheme

def hasScheme (world : World Handler Callback State) (name : String) : Bool :=
  world.registry.has (Handle.ofName name).scheme

/-- Takes a scheme away.  Handles of it stay usable and register it again when needed. -/
def unregister (world : World Handler Callback State) (name : String) :
    World Handler Callback State :=
  let scheme := (Handle.ofName name).scheme
  (world.amend (·.dropScheme scheme)).log (.schemeUnregistered scheme)

/-- Takes every scheme away and leaves an empty global one. -/
def unregisterAll (world : World Handler Callback State) : World Handler Callback State :=
  (world.amend fun registry => .fresh registry.options).log .allSchemesUnregistered

end World

end LinkRouting
