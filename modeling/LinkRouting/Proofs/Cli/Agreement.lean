import LinkRouting.Cli.Run
import LinkRouting.Proofs.Dispatch.Offer

namespace LinkRouting

namespace Config

/-- The routes of these entries in the order in which they are tried.  The handler of each is the
name of its target. -/
def ranked (scheme : String) (entries : List RouteEntry) : List (Route String) :=
  (entries.flatMap (·.declares some scheme)).mergeSort fun a b => b.priority ≤ a.priority

/-- The routes that are tried for the URLs of a scheme, in this order: those of the scheme itself,
then the global ones if it falls back to them, and only those if it is not registered. -/
def attempts (config : Config) (scheme : String) : List (Route String) :=
  let globals := ranked globalScheme config.routes
  match config.schemes.find? fun entry => entry.name.toLower = scheme.toLower with
  | none => globals
  | some entry =>
      ranked entry.name.toLower entry.routes ++ if entry.fallback then globals else []

/-- The first route that matches a URL, with the parameters of the match. -/
def answer? [Url.Names] (config : Config) (source : String) (given : Params) :
    Option (Route String × Params) :=
  match Url.parse source with
  | .error _ => none
  | .ok url =>
      (config.attempts url.scheme).findSome? fun route =>
        (route.respond (.ofUrl source url config.options given)).map (route, ·)

variable {config : Config} {source : String} {given : Params}

theorem answer?_of_ok [Url.Names] {url : Url} (parsed : Url.parse source = .ok url) :
    config.answer? source given =
      (offers (.ofUrl source url config.options given) (config.attempts url.scheme)).head? := by
  rw [offers, List.head?_filterMap, answer?, parsed]

theorem exists_target_of_mem_ranked {scheme : String} {entries : List RouteEntry}
    {route : Route String} (member : route ∈ ranked scheme entries) :
    ∃ target, route.handler = some target := by
  obtain ⟨entry, _, declared⟩ := List.mem_flatMap.mp (List.mem_mergeSort.mp member)
  obtain ⟨pattern, _, rfl⟩ := List.mem_map.mp declared
  exact ⟨entry.target, rfl⟩

theorem exists_target_of_answer? [Url.Names] {route : Route String} {params : Params}
    (found : config.answer? source given = some (route, params)) :
    ∃ target, route.handler = some target := by
  unfold answer? at found
  split at found
  · cases found
  · obtain ⟨tried, among, matched⟩ := List.exists_of_findSome?_eq_some found
    obtain ⟨_, _, same⟩ := Option.map_eq_some_iff.mp matched
    cases same
    unfold attempts at among
    split at among
    · exact exists_target_of_mem_ranked among
    · rcases List.mem_append.mp among with own | global
      · exact exists_target_of_mem_ranked own
      · split at global
        · exact exists_target_of_mem_ranked global
        · cases global

/-- What the caller adds has no say in whether there is an answer. -/
theorem isSome_answer? [Url.Names] (given other : Params) :
    (config.answer? source given).isSome = (config.answer? source other).isSome := by
  unfold answer?
  split
  · rfl
  · rw [Bool.eq_iff_iff, List.findSome?_isSome_iff, List.findSome?_isSome_iff]
    simp only [Option.isSome_map, Route.isSome_respond]
    rfl

theorem problems_of_load {text : String} (loaded : load text = .ok config) :
    config.problems = [] := by
  unfold load at loaded
  split at loaded
  · cases loaded
  · unfold checked at loaded
    split at loaded
    · rename_i fine
      exact Except.ok.inj loaded ▸ fine
    · cases loaded

end Config

namespace Cli

open Config

section Handlers

variable {config : Config} {entries : List RouteEntry} {scheme : String}

theorem handlers_of_mem {entry : RouteEntry}
    (member : entry ∈ config.routes ++ config.schemes.flatMap (·.routes)) :
    handlers config entry.target = some entry.target := by
  rw [handlers, if_pos]
  exact List.mem_eraseDups.mpr (List.mem_map_of_mem member)

/-- Every target that a table declares is one of its targets. -/
theorem handlers_declared (config : Config) :
    ∀ declared ∈ config.declared, handlers config declared.2.target ≠ none := by
  rintro ⟨scheme, entry⟩ member
  have listed : entry ∈ config.routes ++ config.schemes.flatMap (·.routes) := by
    rw [declared, List.mem_append, List.mem_map, List.mem_flatMap] at member
    rw [List.mem_append, List.mem_flatMap]
    rcases member with ⟨_, global, same⟩ | ⟨owner, among, own⟩
    · cases same
      exact .inl global
    · obtain ⟨_, within, same⟩ := List.mem_map.mp own
      cases same
      exact .inr ⟨owner, among, within⟩
  rw [handlers_of_mem listed]
  exact Option.some_ne_none entry.target

theorem installed_handlers {fallback : Bool}
    (known : ∀ entry ∈ entries, handlers config entry.target = some entry.target) :
    (installed (handlers config) scheme fallback entries : Entry String Unit) =
      { routes := ranked scheme entries, fallback } := by
  have same : entries.flatMap (·.declares (handlers config) scheme) =
      entries.flatMap (·.declares some scheme) := by
    refine List.flatMap_congr fun entry member => ?_
    rw [RouteEntry.declares, RouteEntry.declares, known entry member]
  rw [installed, same]
  rfl

theorem problems_of_load {invocation : Invocation} {read : String → Option String}
    (loaded : invocation.load read = .ok config) : config.problems = [] := by
  unfold Invocation.load at loaded
  split at loaded
  · cases loaded
    rfl
  · split at loaded
    · cases loaded
    · rename_i document _
      cases result : Config.load document with
      | error error =>
          rw [result] at loaded
          cases loaded
      | ok valid =>
          rw [result] at loaded
          cases loaded
          exact Config.problems_of_load result

end Handlers

section Printing

variable {world : RunWorld} {handle : Handle} {request : Request} {source : String} {given : Params}

/-- What the handler of an offer prints. -/
def reply : Option (Route String × Params) → String
  | none => ""
  | some (route, params) => route.handler.elim "" (announcement · params)

theorem willing (offered : List (Route String × Params)) : application.Willing offered :=
  Application.willing_of_handle (fun _ _ _ => rfl) offered

/-- The first handler that is asked prints, and no other is asked. -/
theorem app_attempt (offered : List (Route String × Params)) (world : RunWorld) :
    (application.attempt offered world).2.app = world.app ++ reply offered.head? := by
  cases offered with
  | nil => exact String.append_empty.symm
  | cons offer rest =>
      obtain ⟨⟨scheme, pattern, priority, candidates, handler⟩, params⟩ := offer
      rw [Application.attempt_cons]
      cases handler with
      | none => exact String.append_empty.symm
      | some target => rfl

theorem app_search : (application.search handle request world).2.app =
    world.app ++ reply (offers request (world.reach handle)).head? := by
  rw [World.reach, offers_append]
  by_cases nothing : offers request (world.registry.entry handle.scheme).routes = []
  · rw [Application.search_of_none nothing, nothing, List.nil_append]
    by_cases follows : world.fallsBack handle = true
    · rw [if_pos follows, if_pos follows]
      exact app_attempt _ _
    · rw [if_neg follows, if_neg follows]
      exact String.append_empty.symm
  · have accepted : (application.attempt (offers request
        (world.registry.entry handle.scheme).routes) world).1 = .returned true := by
      rw [Application.attempt_of_willing (willing _), List.isEmpty_eq_false_iff.mpr nothing]
      rfl
    rw [Application.search, Application.walk_resort_apply _ _ _ _ (Prod.ext accepted rfl),
      if_neg (by simp), List.head?_append_of_ne_nil _ nothing]
    exact app_attempt _ _

theorem app_conclude (entry : Entry String Unit) (handled : Bool) (world : RunWorld) :
    (application.conclude handle entry request handled world).2.app = world.app := by
  cases handled with
  | true => rfl
  | false =>
      cases heard : entry.unmatched with
      | none => rw [Application.conclude_of_none _ _ _ heard]; rfl
      | some callback => rw [Application.conclude_of_some _ _ _ heard]; rfl

theorem app_dispatch : (application.dispatch handle (world.registry.entry handle.scheme) request
    world).2.app = world.app ++ reply (offers request (world.reach handle)).head? := by
  rw [← app_search, Application.dispatch_eq_conclude]
  split
  · rename_i handled later ended
    rw [app_conclude, ended]
  · rename_i ended
    rw [ended]

variable (handle source given world)

theorem route_returns [Url.Names] : (application.route handle source given world).1 =
    .returned (world.firstOffer? handle source given).isSome := by
  have offered (url : Url) (_ : Url.parse source = .ok url) := willing
    (offers (world.request source url given) (world.reach handle))
  obtain ⟨_, returned⟩ := Application.route_of_willing offered given
  rw [returned fun _ _ => rfl, World.canRoute_eq_isSome]

theorem app_route [Url.Names] : (application.route handle source given world).2.app =
    world.app ++ reply (world.firstOffer? handle source given) := by
  cases parsed : Url.parse source with
  | error error =>
      rw [Application.route_of_error _ parsed, World.firstOffer?, parsed]
      exact String.append_empty.symm
  | ok url =>
      rw [Application.route_of_ok _ parsed, World.firstOffer?_of_ok parsed]
      exact app_dispatch

end Printing

section Reach

variable {config : Config} {world : RunWorld}
  (table : config.Installed (handlers config) world.registry)
include table

theorem entry_globalScheme : world.registry.entry globalScheme =
    { routes := ranked globalScheme config.routes } := by
  rw [Registry.entry, table.global, Option.getD_some, installed_handlers]
  exact fun entry member => handlers_of_mem (List.mem_append_left _ member)

theorem entry_of_mem {scheme : SchemeEntry} (member : scheme ∈ config.schemes) :
    world.registry.entry scheme.name.toLower =
      { routes := ranked scheme.name.toLower scheme.routes, fallback := scheme.fallback } := by
  rw [Registry.entry, table.schemes scheme member, Option.getD_some, installed_handlers]
  exact fun entry within =>
    handlers_of_mem (List.mem_append_right _ (List.mem_flatMap_of_mem member within))

theorem has_of_mem {scheme : SchemeEntry} (member : scheme ∈ config.schemes) :
    world.registry.has scheme.name.toLower = true := by
  rw [Registry.has, Dictionary.contains, table.schemes scheme member]
  rfl

theorem reach_global : world.reach .global = ranked globalScheme config.routes := by
  have stays : world.fallsBack .global = false := Bool.and_false _
  rw [World.reach, stays]
  exact (List.append_nil _).trans (congrArg Entry.routes (entry_globalScheme table))

/-- A URL is tried with the routes that are configured for its scheme. -/
theorem reach_handleFor [Url.Names] {source : String} {url : Url} (valid : config.problems = [])
    (parsed : Url.parse source = .ok url) :
    world.reach (world.registry.handleFor source) = config.attempts url.scheme := by
  rw [Registry.handleFor_of_ok parsed, attempts]
  cases found : config.schemes.find? fun entry => entry.name.toLower = url.scheme.toLower with
  | none =>
      split
      · -- Nothing but the global scheme can be registered under this name.
        rename_i present
        have key : url.scheme.toLower ∈ world.registry.table.keys :=
          Dictionary.mem_keys_iff.mpr (Option.isSome_iff_ne_none.mp present)
        rcases List.mem_cons.mp (table.names.mem_iff.mp key) with same | named
        · rw [same]
          exact reach_global table
        · obtain ⟨scheme, member, same⟩ := List.mem_map.mp named
          simpa [same] using List.find?_eq_none.mp found scheme member
      · exact reach_global table
  | some scheme =>
      have member := List.mem_of_find?_eq_some found
      have same : scheme.name.toLower = url.scheme.toLower := by simpa using List.find?_some found
      have other : scheme.name.toLower ≠ globalScheme :=
        (problems_eq_nil_iff.mp valid).1.toLower_ne_global member
      have leaves : world.fallsBack ⟨scheme.name.toLower⟩ = scheme.fallback := by
        simp [World.fallsBack, World.fallback, entry_of_mem table member, Handle.isGlobal, other]
      rw [← same, if_pos (has_of_mem table member), World.reach, leaves, entry_of_mem table member,
        Registry.routes, entry_globalScheme table]

end Reach

section Runs

variable {config : Config} {world : RunWorld} {source : String} {given : Params}

theorem firstOffer?_handleFor [Url.Names] (valid : config.problems = [])
    (table : config.Installed (handlers config) world.registry) :
    world.firstOffer? (world.registry.handleFor source) source given =
      config.answer? source given := by
  cases parsed : Url.parse source with
  | error error => rw [World.firstOffer?, answer?, parsed]
  | ok url =>
      rw [World.firstOffer?_of_ok parsed, reach_handleFor table valid parsed, answer?_of_ok parsed,
        World.request, table.options]

theorem checkUrl_fst [Url.Names] (valid : config.problems = [])
    (table : config.Installed (handlers config) world.registry) :
    (checkUrl source world).1 =
      if (config.answer? source given).isSome then none else some (.noRoute source) := by
  rw [isSome_answer? given .empty, ← firstOffer?_handleFor valid table, ← World.canRoute_eq_isSome]
  rfl

theorem routeUrl_eq [Url.Names] (valid : config.problems = [])
    (table : config.Installed (handlers config) world.registry) (source : String)
    (given : Params) : (routeUrl source given world).1 =
        (if (config.answer? source given).isSome then none else some (.notHandled source)) ∧
      (routeUrl source given world).2.app = world.app ++ reply (config.answer? source given) := by
  let handle := world.registry.handleFor source
  let heard : RunWorld := world.setUnmatched handle ()
  have offered : heard.firstOffer? handle source given = config.answer? source given :=
    (World.firstOffer?_setUnmatched handle ()).trans (firstOffer?_handleFor valid table)
  have aimed : application.routeAny source given heard =
      application.route handle source given heard := by
    have same : heard.registry.handleFor source = handle := World.handleFor_setUnmatched ()
    exact congrArg (application.route · source given heard) same
  have returned := route_returns heard handle source given
  have told := app_route heard handle source given
  rw [← aimed, offered] at returned told
  rcases ended : application.routeAny source given heard with ⟨outcome, later⟩
  rw [ended] at returned told
  obtain rfl : outcome = _ := returned
  simp only [heard, handle] at ended
  simp only [routeUrl, ended]
  cases found : (config.answer? source given).isSome with
  | true => exact ⟨rfl, told⟩
  | false => exact ⟨rfl, told⟩

/-- The router of a run is always set up, as no target is without a handler. -/
theorem install_handlers (valid : config.problems = []) :
    (World.install config (handlers config) "" : Except SetupError Unit × RunWorld).1 = .ok () :=
  (World.install_fst valid (handlers config) "").trans
    (verdict_eq_ok_iff.mpr (handlers_declared config))

theorem exists_useRouter_eq (valid : config.problems = [])
    (use : RunWorld → Option Failure × RunWorld) : ∃ world : RunWorld,
      config.Installed (handlers config) world.registry ∧ world.app = "" ∧
        (useRouter config use).output = (use world).2.app ∧
        (useRouter config use).failure = (use world).1 := by
  have finished : (World.install config (handlers config) "" : _ × RunWorld).1 = .ok () :=
    install_handlers valid
  have table : config.Installed (handlers config)
      (World.install config (handlers config) "" : _ × RunWorld).2.registry :=
    World.install_installed valid (handlers config) ""
      (verdict_eq_ok_iff.mpr (handlers_declared config))
  have silent : (World.install config (handlers config) "" : _ × RunWorld).2.app = "" :=
    World.app_install valid (handlers config) ""
  rcases ended : (World.install config (handlers config) "" : _ × RunWorld) with ⟨verdict, world⟩
  rw [ended] at finished table silent
  obtain rfl : verdict = .ok () := finished
  exact ⟨world, table, silent, by simp only [useRouter, ended], by simp only [useRouter, ended]⟩

end Runs

section Filter

variable {config : Config} {invocation : Invocation} {read : String → Option String}
  {environment : Option String}

theorem run_of_torn [Url.Names] (loaded : invocation.load read = .ok config)
    {error : Log.DirectiveError}
    (torn : Log.Filter.choose environment config.logging.level = .error error) :
    invocation.run read environment =
      { format := config.logging.format, failure := some .filter } := by
  simp only [Invocation.run, loaded, torn]

theorem run_of_chosen [Url.Names] (loaded : invocation.load read = .ok config) {filter : Log.Filter}
    (chosen : Log.Filter.choose environment config.logging.level = .ok filter) :
    (invocation.run read environment).output = (invocation.command.run config).output ∧
      (invocation.run read environment).failure = (invocation.command.run config).failure := by
  simp only [Invocation.run, loaded, chosen, and_self]

theorem exitCode_of_failure {transcript : Transcript} {failure : Failure} {succeeds : Bool}
    (failed : transcript.failure = if succeeds then none else some failure)
    (plain : failure ≠ .filter) : transcript.exitCode = if succeeds then 0 else 1 := by
  rw [Transcript.exitCode, failed]
  cases succeeds with
  | true => rfl
  | false =>
      cases failure with
      | filter => exact absurd rfl plain
      | _ => rfl

end Filter

section Commands

variable {config : Config} {path : Option String} {url : String} {read : String → Option String}
  {environment : Option String} (loaded : Invocation.load ⟨path, .check url⟩ read = .ok config)
  {filter : Log.Filter} (chosen : Log.Filter.choose environment config.logging.level = .ok filter)
include loaded chosen

theorem check_failure [Url.Names] (given : Params) :
    (Invocation.run ⟨path, .check url⟩ read environment).failure =
      if (config.answer? url given).isSome then none else some (.noRoute url) := by
  have valid := problems_of_load loaded
  obtain ⟨world, table, _, _, failure⟩ := exists_useRouter_eq valid (checkUrl url)
  exact (run_of_chosen loaded chosen).2.trans (failure.trans (checkUrl_fst valid table))

theorem route_transcript [Url.Names] (pairs : List (String × String)) :
    let routed := Invocation.run ⟨path, .route url pairs⟩ read environment
    let answer? := config.answer? url (givenParams pairs)
    routed.output = reply answer? ∧
      routed.failure = if answer?.isSome then none else some (.notHandled url) := by
  intro routed answer?
  have valid := problems_of_load loaded
  obtain ⟨world, table, silent, output, failure⟩ :=
    exists_useRouter_eq valid (routeUrl url (givenParams pairs))
  obtain ⟨decided, told⟩ := routeUrl_eq valid table url (givenParams pairs)
  have same : Invocation.load ⟨path, .route url pairs⟩ read = .ok config := loaded
  obtain ⟨printed, failed⟩ := run_of_chosen same chosen
  rw [silent, String.empty_append] at told
  exact ⟨printed.trans (output.trans told), failed.trans (failure.trans decided)⟩

end Commands

/-- Checking a URL and routing it fail alike, whatever parameters are given, and what is printed
for a URL that is routed is the target of the first route that matches. -/
theorem check_agrees_route [Url.Names] {config : Config} {path : Option String} {url : String}
    {read : String → Option String} (loaded : Invocation.load ⟨path, .check url⟩ read = .ok config)
    (pairs : List (String × String)) (environment : Option String) :
    let routed := Invocation.run ⟨path, .route url pairs⟩ read environment
    let checked := Invocation.run ⟨path, .check url⟩ read environment
    let answer? := config.answer? url (givenParams pairs)
    (routed.exitCode = 0 ↔ checked.exitCode = 0) ∧
      (routed.exitCode = 0 → ∃ route params target, answer? = some (route, params) ∧
        route.handler = some target ∧ routed.output =
          (Json.ofMembers [("target", .text target), ("parameters", params.toJson)]).pretty ++
            "\n") ∧
      (routed.exitCode = 1 → answer? = none ∧ routed.output = "" ∧
        routed.failure.map Failure.message = some ("no route handled " ++ url)) ∧
      ((∃ filter, Log.Filter.choose environment config.logging.level = .ok filter) →
        routed.exitCode = if answer?.isSome then 0 else 1) ∧
      (World.install config (handlers config) "" : Except SetupError Unit × RunWorld).1 =
        .ok () := by
  intro routed checked answer?
  have installed := install_handlers (problems_of_load loaded)
  cases chosen : Log.Filter.choose environment config.logging.level with
  | error error =>
      have same : Invocation.load ⟨path, .route url pairs⟩ read = .ok config := loaded
      have torn : routed.exitCode = 101 ∧ checked.exitCode = 101 :=
        ⟨congrArg Transcript.exitCode (run_of_torn same chosen),
          congrArg Transcript.exitCode (run_of_torn loaded chosen)⟩
      rw [torn.1, torn.2]
      exact ⟨Iff.rfl, nofun, nofun, nofun, installed⟩
  | ok filter =>
      obtain ⟨output, failure⟩ : routed.output = reply answer? ∧
          routed.failure = if answer?.isSome then none else some (.notHandled url) :=
        route_transcript loaded chosen pairs
      have routedExit : routed.exitCode = if answer?.isSome then 0 else 1 :=
        exitCode_of_failure failure nofun
      have checkedExit : checked.exitCode = if answer?.isSome then 0 else 1 :=
        exitCode_of_failure (check_failure loaded chosen (givenParams pairs)) nofun
      rw [routedExit, checkedExit, failure, output]
      cases found : answer? with
      | none => exact ⟨Iff.rfl, nofun, fun _ => ⟨rfl, rfl, rfl⟩, fun _ => rfl, installed⟩
      | some offer =>
          obtain ⟨route, params⟩ := offer
          obtain ⟨target, named⟩ := exists_target_of_answer? found
          refine ⟨Iff.rfl, fun _ => ⟨route, params, target, rfl, named, ?_⟩, nofun, fun _ => rfl,
            installed⟩
          rw [reply, named]
          rfl

/-- A scheme without routes of its own, which falls back to the only global route. -/
def helpTable : Config where
  routes := [⟨some "/:page", [], 0, "page"⟩]
  schemes := [⟨"App", true, []⟩]

def helpDocument : String :=
  "[[routes]]\npattern = \"/:page\"\ntarget = \"page\"\n" ++
    "[[schemes]]\nname = \"App\"\nfallback_to_global = true\n"

def helpAnswer : String :=
  "\x7b\n  \"parameters\": \x7b\n    \"by\": \"me\",\n    \"page\": \"help\",\n" ++
    "    \"route_pattern\": \"/:page\",\n    \"route_scheme\": \"__global__\",\n" ++
    "    \"route_url\": \"APP:/help\"\n  \x7d,\n  \"target\": \"page\"\n\x7d\n"

theorem check_agrees_route_help :
    let read : String → Option String := fun _ => some helpDocument
    let routed := Invocation.run ⟨some "links.toml", .route "APP:/help" [("by", "me")]⟩ read none
    let checked := Invocation.run ⟨some "links.toml", .check "APP:/help"⟩ read none
    Invocation.load ⟨some "links.toml", .check "APP:/help"⟩ read = .ok helpTable ∧
      (helpTable.answer? "APP:/help" (givenParams [("by", "me")])).isSome ∧
      checked.exitCode = 0 ∧ routed.exitCode = 0 ∧ routed.output = helpAnswer := by
  intro read routed checked
  have loaded : Invocation.load ⟨some "links.toml", .check "APP:/help"⟩ read = .ok helpTable := by
    decide +kernel
  have ran : routed.exitCode = 0 ∧ routed.output = helpAnswer := by decide +kernel
  obtain ⟨agrees, answered, _⟩ := check_agrees_route loaded [("by", "me")] none
  obtain ⟨route, params, target, found, _⟩ := answered ran.1
  refine ⟨loaded, ?_, agrees.mp ran.1, ran⟩
  rw [found]
  rfl

end Cli

end LinkRouting
