import LinkRouting.Config.Schema
import LinkRouting.Pattern.Expansion

namespace LinkRouting.Config

inductive Problem where
  | emptySchemeName (index : Nat)
  | duplicateScheme (name : String)
  | reservedScheme (name : String)
  | missingPattern (scheme target : String)
  | emptyTarget (scheme pattern : String)
  | invalidPattern (scheme : String) (cause : PatternError)
deriving DecidableEq, Repr

def Problem.message : Problem → String
  | emptySchemeName index => "scheme #" ++ toString index ++ " has an empty name"
  | duplicateScheme name => "scheme `" ++ name ++ "` is declared more than once"
  | reservedScheme name => "scheme name `" ++ name ++ "` is reserved"
  | missingPattern scheme target =>
      "route for target `" ++ target ++ "` in scheme `" ++ scheme ++ "` has no pattern"
  | emptyTarget scheme pattern =>
      "route `" ++ pattern ++ "` in scheme `" ++ scheme ++ "` has an empty target"
  | invalidPattern scheme cause => "scheme `" ++ scheme ++ "`: " ++ cause.message

def summary (problems : List Problem) : String :=
  "Validation failed: " ++ ", ".intercalate (problems.map Problem.message)

def patternProblems (scheme target pattern : String) : List Problem :=
  (if Text.blank target then [.emptyTarget scheme pattern] else []) ++
    match Pattern.compile pattern with
    | .ok _ => []
    | .error cause => [.invalidPattern scheme cause]

def routeProblems (scheme : String) (route : RouteEntry) : List Problem :=
  match route.allPatterns with
  | [] => [.missingPattern scheme route.target]
  | patterns => patterns.flatMap (patternProblems scheme route.target)

/-- Scheme names are compared without blanks around them and without regard to case. -/
def normalName (name : String) : String :=
  (Text.trim name).toLower

/-- What is wrong with a name when those of `seen` are taken, and the names taken then. -/
def nameProblems (seen : List String) (index : Nat) (name : String) :
    List Problem × List String :=
  let normal := normalName name
  if normal = "" then ([.emptySchemeName index], seen)
  else if normal = globalScheme then ([.reservedScheme name], seen)
  else if normal ∈ seen then ([.duplicateScheme name], seen)
  else ([], normal :: seen)

/-- What is wrong with the schemes from the one at `index` on. -/
def schemeProblems (seen : List String) (index : Nat) : List SchemeEntry → List Problem
  | [] => []
  | scheme :: rest =>
      let name := nameProblems seen index scheme.name
      name.1 ++ scheme.routes.flatMap (routeProblems scheme.name) ++
        schemeProblems name.2 (index + 1) rest

/-- Everything wrong with `config`, in the order of the document. -/
def problems (config : Config) : List Problem :=
  config.routes.flatMap (routeProblems globalScheme) ++ schemeProblems [] 0 config.schemes

end LinkRouting.Config
