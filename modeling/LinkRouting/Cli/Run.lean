import LinkRouting.Cli.Arguments
import LinkRouting.Config.Load
import LinkRouting.Json.Printer
import LinkRouting.Log.Filter
import LinkRouting.Log.Line
import LinkRouting.Router.Dispatch
import LinkRouting.Router.Setup

namespace LinkRouting.Cli

inductive Failure where
  /-- The configuration file could not be read. -/
  | unreadable
  | load (error : Config.LoadError)
  | setup (error : SetupError)
  /-- The filter for the log could not be read. -/
  | filter
  | pattern (error : PatternError)
  /-- No route would be tried for the URL. -/
  | noRoute (url : String)
  /-- No route has accepted the URL. -/
  | notHandled (url : String)
deriving DecidableEq, Repr

def Failure.message : Failure → String
  | unreadable => "cannot read the configuration file"
  | load .malformed => "the configuration file is malformed"
  | load (.invalid problems) => Config.summary problems
  | setup error => error.message
  | filter => "the filter for the log is torn"
  | pattern error => error.message
  | noRoute url => "no route matches " ++ url
  | notHandled url => "no route handled " ++ url

structure Transcript where
  /-- What goes to the standard output. -/
  output : String := ""
  /-- The format of the log. -/
  format : Config.LogFormat := .pretty
  /-- The events that the filter shows. -/
  log : List Log.Event := []
  failure : Option Failure := none
deriving DecidableEq, Repr

/-- Zero, or one after a failure.  A filter that cannot be read stops everything. -/
def Transcript.exitCode (transcript : Transcript) : Nat :=
  match transcript.failure with
  | none => 0
  | some .filter => 101
  | some _ => 1

/-- The world of a run.  Handlers are the names of targets, there is but one callback, and the
application keeps what it has printed. -/
abbrev RunWorld := World String Unit String

/-- What the handler of a target prints. -/
def announcement (target : String) (params : Params) : String :=
  (Json.ofMembers [("target", .text target), ("parameters", params.toJson)]).pretty ++ "\n"

/-- Every handler prints what it was called with and accepts, and a URL that nothing accepted
is logged. -/
def application : Application String Unit String where
  handle target params := do
    Action.modify fun world : RunWorld =>
      { world with app := world.app ++ announcement target params }
    pure true
  unmatched _ handle url _ := Action.modify (·.log (.unmatchedUrl handle.scheme url))

def logged (world : RunWorld) : List Log.Event :=
  world.journal.reverse.filterMap fun
    | .logged event => some event
    | .measured _ => none

/-- The names of all targets, each once. -/
def targets (config : Config) : List String :=
  ((config.routes ++ config.schemes.flatMap (·.routes)).map (·.target)).eraseDups

/-- The handler of a target.  Only those of the route table have one. -/
def handlers (config : Config) (target : String) : Option String :=
  if target ∈ targets config then some target else none

def lines (texts : List String) : String :=
  String.join (texts.map (· ++ "\n"))

/-- The schemes with their routes below them. -/
def listing (world : RunWorld) : String :=
  lines (world.registry.table.entries.flatMap fun entry =>
    entry.1 :: entry.2.routes.map fun route => "  " ++ route.render)

def checkUrl [Url.Names] (url : String) (world : RunWorld) : Option Failure × RunWorld :=
  let asked := world.canRouteAny url .empty
  (if asked.1 then none else some (.noRoute url),
    { asked.2 with app := asked.2.app ++ lines [toString asked.1] })

/-- Routes a URL, and has it logged when nothing accepts it. -/
def routeUrl [Url.Names] (url : String) (params : Params) (world : RunWorld) :
    Option Failure × RunWorld :=
  let world := world.setUnmatched (world.registry.handleFor url) ()
  match application.routeAny url params world with
  | (.returned true, world) => (none, world)
  | (_, world) => (some (.notHandled url), world)

/-- The parameters given on the command line, of which the last of each name counts. -/
def givenParams (pairs : List (String × String)) : Params :=
  .ofList (pairs.map fun pair => (pair.1, .text pair.2))

/-- What was printed and logged, and what went wrong. -/
structure Effects where
  output : String
  events : List Log.Event
  failure : Option Failure

def useRouter (config : Config) (use : RunWorld → Option Failure × RunWorld) : Effects :=
  let effects (failure : Option Failure) (world : RunWorld) : Effects :=
    ⟨world.app, .handlersBound (targets config).length :: logged world, failure⟩
  match World.install config (handlers config) "" with
  | (.error error, world) => effects (some (.setup error)) world
  | (.ok (), world) => effects (use world).1 (use world).2

def Command.run [Url.Names] (config : Config) : Command → Effects
  | .expand pattern =>
      match Pattern.expand pattern with
      | .error error => ⟨"", [], some (.pattern error)⟩
      | .ok patterns => ⟨lines patterns, [], none⟩
  | .list => useRouter config fun world => (none, { world with app := listing world })
  | .check url => useRouter config (checkUrl url)
  | .route url params => useRouter config (routeUrl url (givenParams params))

/-- How the name of the configuration file is logged. -/
def describePath : Option String → String
  | none => "None"
  | some path => "Some(" ++ Text.quoted path ++ ")"

namespace Invocation

/-- The route table, which is empty when no file is named. -/
def load (invocation : Invocation) (read : String → Option String) : Except Failure Config :=
  match invocation.config with
  | none => .ok {}
  | some path =>
      match read path with
      | none => .error .unreadable
      | some document => (Config.load document).mapError .load

/-- Carries out a command.  Files are looked up with `read`, and `environment` is the filter
that the environment asks for.  Nothing is logged unless the route table loads. -/
def run [Url.Names] (invocation : Invocation) (read : String → Option String)
    (environment : Option String) : Transcript :=
  match invocation.load read with
  | .error failure => { failure := some failure }
  | .ok config =>
      match Log.Filter.choose environment config.logging.level with
      | .error _ => { format := config.logging.format, failure := some .filter }
      | .ok filter =>
          let effects := invocation.command.run config
          let loaded := .configLoaded (describePath invocation.config) config.schemes.length
          { output := effects.output
            format := config.logging.format
            log := (loaded :: effects.events).filter filter.shows
            failure := effects.failure }

end Invocation

end LinkRouting.Cli
