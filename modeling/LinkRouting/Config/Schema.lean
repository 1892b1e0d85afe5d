import LinkRouting.Request.Basic

namespace LinkRouting

/-- The name of the scheme whose routes may be tried for URLs of other schemes. -/
def globalScheme : String := "__global__"

namespace Config

/-- Patterns that lead to one target. -/
structure RouteEntry where
  pattern : Option String
  patterns : List String
  priority : Nat
  target : String
deriving DecidableEq, Repr

/-- The single pattern, if any, and then the others. -/
def RouteEntry.allPatterns (entry : RouteEntry) : List String :=
  entry.pattern.toList ++ entry.patterns

structure SchemeEntry where
  name : String
  /-- Try the global routes when none of these accepts. -/
  fallback : Bool
  routes : List RouteEntry
deriving DecidableEq, Repr

inductive LogFormat where
  | pretty
  | json
deriving DecidableEq, Repr

structure Logging where
  level : String := "info"
  format : LogFormat := .pretty
deriving DecidableEq, Repr

end Config

structure Config where
  options : Options := {}
  logging : Config.Logging := {}
  routes : List Config.RouteEntry := []
  schemes : List Config.SchemeEntry := []
deriving DecidableEq, Repr

end LinkRouting
