import LinkRouting.Config.Schema
import LinkRouting.Ranking
import LinkRouting.Route

namespace LinkRouting

/-- What is registered for one scheme. -/
structure Entry (Handler Callback : Type) where
  routes : List (Route Handler) := []
  /-- Whether the global routes are tried when none of these accepts. -/
  fallback : Bool := false
  /-- What is called for a URL that no route accepted. -/
  unmatched : Option Callback := none

/-- The routes of every scheme in the order in which they are tried, with the settings of each
scheme and of all requests. -/
structure Registry (Handler Callback : Type) where
  table : Dictionary (Entry Handler Callback)
  options : Options

/-- The router of one scheme, by the scheme's name in lower case. -/
structure Handle where
  scheme : String
deriving DecidableEq, Repr, Inhabited

namespace Handle

def ofName (name : String) : Handle :=
  ⟨name.toLower⟩

def global : Handle :=
  ⟨globalScheme⟩

def isGlobal (handle : Handle) : Bool :=
  handle.scheme = globalScheme

def describe (handle : Handle) : String :=
  "SchemeRouter \x7b scheme: " ++ Text.quoted handle.scheme ++ " \x7d"

end Handle

def Options.describe (options : Options) : String :=
  "RequestOptions \x7b decode_plus_symbols: " ++ toString options.decodePlus ++
    ", treat_host_as_path_component: " ++ toString options.hostAsComponent ++ " \x7d"

/-- A description of a router that has these schemes. -/
def Options.describeRouter (options : Options) (schemes : List String) : String :=
  "RouterManager \x7b schemes: " ++ Text.quotedList schemes ++
    ", options: " ++ options.describe ++ " \x7d"

namespace Registry

variable {Handler Callback : Type}

/-- Nothing but an empty global scheme. -/
def fresh (options : Options) : Registry Handler Callback :=
  ⟨Dictionary.empty.insert globalScheme {}, options⟩

/-- The entry of a scheme, which is empty if there is none. -/
def entry (registry : Registry Handler Callback) (scheme : String) : Entry Handler Callback :=
  (registry.table.get? scheme).getD {}

/-- The routes of a scheme in the order in which they are tried. -/
def routes (registry : Registry Handler Callback) (scheme : String) : List (Route Handler) :=
  (registry.entry scheme).routes

def has (registry : Registry Handler Callback) (scheme : String) : Bool :=
  registry.table.contains scheme

/-- Changes the entry of a scheme, which is there afterwards in any case. -/
def update (registry : Registry Handler Callback) (scheme : String)
    (change : Entry Handler Callback → Entry Handler Callback) : Registry Handler Callback :=
  { registry with table := registry.table.insert scheme (change (registry.entry scheme)) }

def adjust (registry : Registry Handler Callback) (scheme : String)
    (change : Entry Handler Callback → Entry Handler Callback) : Registry Handler Callback :=
  if registry.has scheme then registry.update scheme change else registry

def ensure (registry : Registry Handler Callback) (scheme : String) :
    Registry Handler Callback :=
  registry.update scheme id

/-- Takes away a scheme with its routes and its settings.  The global scheme stays, empty. -/
def dropScheme (registry : Registry Handler Callback) (scheme : String) :
    Registry Handler Callback :=
  if scheme = globalScheme then { registry with table := registry.table.insert scheme {} }
  else { registry with table := registry.table.erase scheme }

/-- Stamps a route with its scheme and puts it behind all others of its priority. -/
def addRoute (registry : Registry Handler Callback) (scheme : String) (route : Route Handler) :
    Registry Handler Callback :=
  registry.update scheme fun entry =>
    { entry with
      routes := insertDescending Route.priority { route with scheme } entry.routes }

def removeFirst (registry : Registry Handler Callback) (scheme : String)
    (wanted : Route Handler → Bool) : Registry Handler Callback :=
  registry.adjust scheme fun entry => { entry with routes := entry.routes.eraseP wanted }

/-- Whether a stored route is the one given, which counts as this scheme's own as long as it is
not registered. -/
def sameRoute (scheme : String) (route stored : Route Handler) : Bool :=
  stored.scheme = (if route.scheme = "" then scheme else route.scheme) &&
    stored.pattern = route.pattern && stored.priority = route.priority

def containsRoute (registry : Registry Handler Callback) (scheme : String)
    (route : Route Handler) : Bool :=
  (registry.routes scheme).any (sameRoute scheme route)

/-- The router of the scheme of `url` if it is registered, and otherwise the global one. -/
def handleFor [Url.Names] (registry : Registry Handler Callback) (url : String) : Handle :=
  match Url.parse url with
  | .error _ => .global
  | .ok parsed =>
      let handle := Handle.ofName parsed.scheme
      if registry.has handle.scheme then handle else .global

def describe (registry : Registry Handler Callback) : String :=
  registry.options.describeRouter registry.table.keys

end Registry

end LinkRouting
