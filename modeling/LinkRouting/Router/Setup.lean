import LinkRouting.Router.Registration

namespace LinkRouting

inductive SetupError where
  | invalid (problems : List Config.Problem)
  | unknownTarget (scheme target : String)
  | badPattern (cause : PatternError)
deriving DecidableEq, Repr

def SetupError.message : SetupError → String
  | invalid problems => Config.summary problems
  | unknownTarget scheme target =>
      "No handler for target `" ++ target ++ "` in scheme `" ++ scheme ++ "`"
  | badPattern cause => "Pattern error: " ++ cause.message

namespace Config

variable {Handler : Type}

/-- The routes of one entry, all with the handler of its target. -/
def RouteEntry.toRoutes (entry : RouteEntry) (handler : Handler) :
    Except PatternError (List (Route Handler)) :=
  entry.allPatterns.mapM fun pattern => Route.ofPattern pattern entry.priority (some handler)

/-- The routes of all entries.  Every target has to have a handler. -/
def toRoutes (handlers : String → Option Handler) (scheme : String) :
    List RouteEntry → Except SetupError (List (Route Handler))
  | [] => .ok []
  | entry :: rest =>
      match handlers entry.target with
      | none => .error (.unknownTarget scheme entry.target)
      | some handler =>
          match entry.toRoutes handler with
          | .error cause => .error (.badPattern cause)
          | .ok routes => (toRoutes handlers scheme rest).map (routes ++ ·)

end Config

namespace World

variable {Handler Callback State : Type}

/-- Registers the schemes of a route table one after the other, each with all of its routes. -/
def installSchemes (world : World Handler Callback State) (handlers : String → Option Handler) :
    List Config.SchemeEntry → Except SetupError Unit × World Handler Callback State
  | [] => (.ok (), world)
  | scheme :: rest =>
      match Config.toRoutes handlers scheme.name scheme.routes with
      | .error error => (.error error, world)
      | .ok routes =>
          let made := world.routerFor scheme.name
          let world := made.2.setFallback made.1 scheme.fallback
          (world.addAll made.1 routes).2.installSchemes handlers rest

def routeCount (world : World Handler Callback State) : Nat :=
  (world.registry.table.entries.flatMap fun entry => entry.2.routes).length

/-- Builds a router from a route table.  Targets are looked up scheme by scheme, the global
routes first, so a target without a handler may be found when other routes are registered. -/
def install (config : Config) (handlers : String → Option Handler) (app : State) :
    Except SetupError Unit × World Handler Callback State :=
  let world : World Handler Callback State := .fresh config.options app
  match config.problems with
  | problem :: problems =>
      (.error (.invalid (problem :: problems)),
        (problem :: problems).foldl (fun world problem => world.log (.invalidConfig problem)) world)
  | [] =>
      let made := world.globalRouter
      match Config.toRoutes handlers globalScheme config.routes with
      | .error error => (.error error, made.2)
      | .ok routes =>
          match (made.2.addAll made.1 routes).2.installSchemes handlers config.schemes with
          | (.error error, world) => (.error error, world)
          | (.ok (), world) =>
              (.ok (), world.log (.tableLoaded config.schemes.length world.routeCount))

end World

end LinkRouting
