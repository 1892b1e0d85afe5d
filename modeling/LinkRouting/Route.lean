import LinkRouting.Matching
import LinkRouting.Pattern.Expansion
import LinkRouting.Text.Quoted

namespace LinkRouting

structure Route (Handler : Type) where
  scheme : String
  pattern : String
  priority : Nat
  /-- The path patterns that `pattern` stands for, in the order in which they are tried. -/
  candidates : List PathPattern
  /-- Without a handler, every match is accepted. -/
  handler : Option Handler

namespace Route

variable {Handler : Type}

/-- A route that is not registered.  Its pattern has to compile. -/
def ofPattern (pattern : String) (priority : Nat) (handler : Option Handler) :
    Except PatternError (Route Handler) :=
  (Pattern.compile pattern).map fun candidates =>
    { scheme := "", pattern, priority, candidates, handler }

/-- The parameters of the first candidate that matches. -/
def respond (route : Route Handler) (request : Request) : Option Params :=
  route.candidates.findSome? fun candidate => candidate.respond route.scheme request

/-- Asks the handler of the route.  A route without one accepts. -/
def call {m : Type → Type} [Pure m] (route : Route Handler) (ask : Handler → Params → m Bool)
    (params : Params) : m Bool :=
  match route.handler with
  | none => pure true
  | some handler => ask handler params

/-- Handlers cannot be compared, so two routes are the same if all else about them is. -/
def same (route other : Route Handler) : Bool :=
  route.scheme = other.scheme && route.pattern = other.pattern &&
    route.priority = other.priority

def render (route : Route Handler) : String :=
  route.pattern ++ " (priority " ++ toString route.priority ++ ")"

/-- A description on one line, which tells the number of candidates only. -/
def describe (route : Route Handler) : String :=
  "RouteDefinition \x7b scheme: " ++ Text.quoted route.scheme ++
    ", pattern: " ++ Text.quoted route.pattern ++
    ", priority: " ++ toString route.priority ++
    ", compiled: " ++ toString route.candidates.length ++
    ", has_handler: " ++ toString route.handler.isSome ++ " \x7d"

end Route

end LinkRouting
