import LinkRouting.Proofs.Config.Soundness
import LinkRouting.Proofs.Ranking
import LinkRouting.Proofs.Registry
import LinkRouting.Router.Setup

namespace LinkRouting

variable {Handler Callback State : Type} {handlers : String → Option Handler}

namespace Config

/-- The routes that one entry declares for a scheme, one for each pattern, all of which are taken
to compile. -/
def RouteEntry.declares (handlers : String → Option Handler) (scheme : String)
    (entry : RouteEntry) : List (Route Handler) :=
  entry.allPatterns.map fun pattern =>
    { scheme, pattern, priority := entry.priority
      candidates := (Pattern.compile pattern).toOption.getD []
      handler := handlers entry.target }

/-- What is registered for a scheme with these routes: all that they declare, and those of higher
priority first. -/
def installed (handlers : String → Option Handler) (scheme : String) (fallback : Bool)
    (entries : List RouteEntry) : Entry Handler Callback where
  routes := (entries.flatMap (·.declares handlers scheme)).mergeSort fun a b =>
    b.priority ≤ a.priority
  fallback := fallback
  unmatched := none

/-- The entries of a table in their order, with the names that they are declared under. -/
def declared (config : Config) : List (String × RouteEntry) :=
  config.routes.map (globalScheme, ·) ++
    config.schemes.flatMap fun scheme => scheme.routes.map (scheme.name, ·)

/-- The first entry whose target has no handler is told. -/
def verdict (handlers : String → Option Handler) (declared : List (String × RouteEntry)) :
    Except SetupError Unit :=
  match declared.find? fun entry => (handlers entry.2.target).isNone with
  | some (scheme, entry) => .error (.unknownTarget scheme entry.target)
  | none => .ok ()

/-- The registry holds what is configured: an entry for the global scheme and one for each other,
under its name in lower case. -/
structure Installed (config : Config) (handlers : String → Option Handler)
    (registry : Registry Handler Callback) : Prop where
  options : registry.options = config.options
  names : registry.table.keys.Perm (globalScheme :: config.schemes.map (·.name.toLower))
  global : registry.table.get? globalScheme =
    some (installed handlers globalScheme false config.routes)
  schemes : ∀ scheme ∈ config.schemes, registry.table.get? scheme.name.toLower =
    some (installed handlers scheme.name.toLower scheme.fallback scheme.routes)

section Verdict

variable {scheme target : String} {entry : RouteEntry} {entries : List RouteEntry}
  {declared first second : List (String × RouteEntry)}

theorem verdict_eq_ok_iff : verdict handlers declared = .ok () ↔
    ∀ entry ∈ declared, handlers entry.2.target ≠ none := by
  unfold verdict
  cases missing : declared.find? fun entry => (handlers entry.2.target).isNone with
  | none => simpa using missing
  | some entry =>
      have absent : handlers entry.2.target = none := by simpa using List.find?_some missing
      refine ⟨nofun, fun known => ?_⟩
      exact absurd absent (known entry (List.mem_of_find?_eq_some missing))

theorem verdict_eq_unknownTarget_iff :
    verdict handlers declared = .error (.unknownTarget scheme target) ↔
      ∃ before entry behind, declared = before ++ (scheme, entry) :: behind ∧
        entry.target = target ∧ handlers target = none ∧
        ∀ earlier ∈ before, handlers earlier.2.target ≠ none := by
  have first : verdict handlers declared = .error (.unknownTarget scheme target) ↔
      ∃ entry, declared.find? (fun entry => (handlers entry.2.target).isNone) =
        some (scheme, entry) ∧ entry.target = target := by
    unfold verdict
    cases declared.find? fun entry => (handlers entry.2.target).isNone with
    | none => simp
    | some found => simp [Prod.ext_iff, and_assoc]
  rw [first]
  constructor
  · rintro ⟨entry, found, rfl⟩
    obtain ⟨missing, before, behind, split, known⟩ := List.find?_eq_some_iff_append.mp found
    refine ⟨before, entry, behind, split, rfl, Option.isNone_iff_eq_none.mp missing, ?_⟩
    intro earlier member absent
    simpa [absent] using known earlier member
  · rintro ⟨before, entry, behind, split, rfl, missing, known⟩
    refine ⟨entry, List.find?_eq_some_iff_append.mpr ⟨Option.isNone_iff_eq_none.mpr missing,
      before, behind, split, fun earlier member => ?_⟩, rfl⟩
    rw [Bool.not_eq_true', Option.isNone_eq_false_iff]
    exact Option.ne_none_iff_isSome.mp (known earlier member)

theorem verdict_cons_of_known (known : (handlers entry.target).isSome) :
    verdict handlers ((scheme, entry) :: declared) = verdict handlers declared := by
  unfold verdict
  rw [List.find?_cons_of_neg (by simp [Option.isSome_iff_ne_none.mp known])]

theorem verdict_cases (handlers : String → Option Handler) (declared : List (String × RouteEntry)) :
    verdict handlers declared = .ok () ∨
      ∃ scheme target, verdict handlers declared = .error (.unknownTarget scheme target) := by
  unfold verdict
  split
  · exact .inr ⟨_, _, rfl⟩
  · exact .inl rfl

theorem verdict_append : verdict handlers (first ++ second) =
    (verdict handlers first).bind fun _ => verdict handlers second := by
  unfold verdict
  rw [List.find?_append]
  cases first.find? fun entry => (handlers entry.2.target).isNone <;> rfl

theorem mapM_eq_ok {α β ε : Type} {f : α → Except ε β} {g : α → β} {items : List α}
    (fine : ∀ a ∈ items, f a = .ok (g a)) : items.mapM f = .ok (items.map g) := by
  induction items with
  | nil => rfl
  | cons a rest ih =>
      obtain ⟨here, others⟩ := List.forall_mem_cons.mp fine
      rw [List.mapM_cons, here, ih others]
      rfl

theorem RouteEntry.toRoutes_eq (sound : entry.Sound) {handler : Handler}
    (known : handlers entry.target = some handler) :
    entry.toRoutes handler = .ok (entry.declares handlers "") := by
  refine mapM_eq_ok fun pattern member => ?_
  obtain ⟨candidates, compiled⟩ := sound.compiles pattern (mem_allPatterns_iff.mp member)
  simp [Route.ofPattern, compiled, known, Except.map, Except.toOption]

theorem toRoutes_eq (sound : ∀ entry ∈ entries, entry.Sound) :
    toRoutes handlers scheme entries = (verdict handlers (entries.map (scheme, ·))).map
      fun _ => entries.flatMap (·.declares handlers "") := by
  induction entries with
  | nil => rfl
  | cons entry rest ih =>
      obtain ⟨here, others⟩ := List.forall_mem_cons.mp sound
      cases known : handlers entry.target with
      | none => simp [toRoutes, verdict, known, Except.map]
      | some handler =>
          rw [List.map_cons, verdict_cons_of_known (by rw [known]; rfl)]
          simp only [toRoutes, known, RouteEntry.toRoutes_eq here known, ih others]
          cases verdict handlers (rest.map (scheme, ·)) <;> rfl

end Verdict

theorem declares_stamped (scheme : String) (entries : List RouteEntry) :
    (entries.flatMap (·.declares handlers "")).map (fun route => { route with scheme }) =
      entries.flatMap (·.declares handlers scheme) := by
  simp only [List.map_flatMap, RouteEntry.declares, List.map_map]
  rfl

end Config

namespace World

open Config

variable {world : World Handler Callback State} {scheme : SchemeEntry}
  {schemes : List SchemeEntry} {key : String}

theorem get?_addDeclared (handle : Handle) {fallback : Bool} (entries : List RouteEntry)
    (present : world.registry.table.get? handle.scheme = some { fallback }) :
    (world.addAll handle (entries.flatMap (·.declares handlers ""))).2.registry.table.get? key =
      if key = handle.scheme then some (installed handlers handle.scheme fallback entries)
      else world.registry.table.get? key := by
  rw [get?_addAll present, declares_stamped, installed, ← sortDescending_eq_mergeSort]
  rfl

/-- Registers one scheme with its routes. -/
def installScheme (world : World Handler Callback State) (scheme : SchemeEntry)
    (routes : List (Route Handler)) : World Handler Callback State :=
  let made := world.routerFor scheme.name
  ((made.2.setFallback made.1 scheme.fallback).addAll made.1 routes).2

theorem options_installScheme (routes : List (Route Handler)) :
    (world.installScheme scheme routes).registry.options = world.registry.options :=
  options_addAll routes

theorem get?_installScheme (handlers : String → Option Handler) (key : String)
    (absent : world.registry.table.get? scheme.name.toLower = none) :
    (world.installScheme scheme
        (scheme.routes.flatMap (·.declares handlers ""))).registry.table.get? key =
      if key = scheme.name.toLower then
        some (installed handlers scheme.name.toLower scheme.fallback scheme.routes)
      else world.registry.table.get? key := by
  let made := world.routerFor scheme.name
  have named : made.1 = ⟨scheme.name.toLower⟩ := rfl
  have empty : made.2.registry.entry scheme.name.toLower = {} := by
    rw [entry_routerFor, Registry.entry, absent, Option.getD_none]
  have prepared (other : String) :
      (made.2.setFallback ⟨scheme.name.toLower⟩ scheme.fallback).registry.table.get? other =
        if other = scheme.name.toLower then some { fallback := scheme.fallback }
        else world.registry.table.get? other := by
    rw [get?_setFallback, empty, get?_routerFor]
    split <;> rfl
  have present := (prepared scheme.name.toLower).trans (if_pos rfl)
  rw [installScheme, named, get?_addDeclared ⟨scheme.name.toLower⟩ scheme.routes present, prepared]
  split <;> rfl

theorem installSchemes_fst (sound : ∀ scheme ∈ schemes, ∀ entry ∈ scheme.routes, entry.Sound) :
    (world.installSchemes handlers schemes).1 = verdict handlers
      (schemes.flatMap fun scheme => scheme.routes.map (scheme.name, ·)) := by
  induction schemes generalizing world with
  | nil => rfl
  | cons scheme rest ih =>
      obtain ⟨here, others⟩ := List.forall_mem_cons.mp sound
      rw [List.flatMap_cons, verdict_append, installSchemes, toRoutes_eq here]
      cases verdict handlers (scheme.routes.map (scheme.name, ·)) with
      | error error => rfl
      | ok known => exact ih others

/-- What installing schemes makes of a registry. -/
structure Extends (handlers : String → Option Handler) (schemes : List SchemeEntry)
    (before after : Registry Handler Callback) : Prop where
  options : after.options = before.options
  others : ∀ key, key ∉ schemes.map (·.name.toLower) →
    after.table.get? key = before.table.get? key
  schemes : ∀ scheme ∈ schemes, after.table.get? scheme.name.toLower =
    some (installed handlers scheme.name.toLower scheme.fallback scheme.routes)

theorem installSchemes_extends
    (sound : ∀ scheme ∈ schemes, ∀ entry ∈ scheme.routes, entry.Sound)
    (distinct : (schemes.map (·.name.toLower)).Nodup)
    (absent : ∀ scheme ∈ schemes, world.registry.table.get? scheme.name.toLower = none)
    (finished : (world.installSchemes handlers schemes).1 = .ok ()) :
    Extends handlers schemes world.registry (world.installSchemes handlers schemes).2.registry := by
  induction schemes generalizing world with
  | nil => exact ⟨rfl, fun _ _ => rfl, nofun⟩
  | cons scheme rest ih =>
      obtain ⟨here, others⟩ := List.forall_mem_cons.mp sound
      obtain ⟨missing, rest_missing⟩ := List.forall_mem_cons.mp absent
      obtain ⟨fresh, rest_distinct⟩ := List.nodup_cons.mp distinct
      let routes := scheme.routes.flatMap (·.declares handlers "")
      have unfolded : world.installSchemes handlers (scheme :: rest) =
          (world.installScheme scheme routes).installSchemes handlers rest := by
        rw [installSchemes, toRoutes_eq here] at finished ⊢
        cases known : verdict handlers (scheme.routes.map (scheme.name, ·)) with
        | error error => simp [known, Except.map] at finished
        | ok _ => rfl
      rw [unfolded] at finished ⊢
      have stored (key : String) := get?_installScheme handlers key missing
      -- Names differ, so the other schemes still have no entry, and what is stored now stays.
      have still : ∀ other ∈ rest, (world.installScheme scheme routes).registry.table.get?
          other.name.toLower = none := by
        intro other member
        rw [stored, if_neg]
        · exact rest_missing other member
        · intro same
          exact fresh (List.mem_map.mpr ⟨other, member, same⟩)
      have run := ih others rest_distinct still finished
      refine ⟨run.options.trans (options_installScheme routes), fun key unnamed => ?_, ?_⟩
      · rw [List.map_cons, List.mem_cons, not_or] at unnamed
        obtain ⟨different, absent⟩ := unnamed
        rw [run.others key absent, stored, if_neg different]
      · refine List.forall_mem_cons.mpr ⟨?_, run.schemes⟩
        rw [run.others _ fresh, stored, if_pos rfl]

/-- A new world with the global routes of a table. -/
def installGlobal (config : Config) (routes : List (Route Handler)) (app : State) :
    World Handler Callback State :=
  let made := (fresh config.options app : World Handler Callback State).globalRouter
  (made.2.addAll made.1 routes).2

theorem get?_installGlobal (config : Config) (handlers : String → Option Handler) (app : State)
    (key : String) :
    (installGlobal config (config.routes.flatMap (·.declares handlers "")) app :
        World Handler Callback State).registry.table.get? key =
      if key = globalScheme then some (installed handlers globalScheme false config.routes)
      else none := by
  let world : World Handler Callback State := fresh config.options app
  have lower : globalScheme.toLower = globalScheme :=
    String.toList_injective ((Text.toList_toLower _).trans (by decide))
  have named : world.globalRouter.1 = ⟨globalScheme⟩ := congrArg Handle.mk lower
  have prepared (other : String) : world.globalRouter.2.registry.table.get? other =
      if other = globalScheme then some { fallback := false } else none := by
    have empty (scheme : String) : world.registry.entry scheme = {} :=
      Registry.entry_fresh config.options
    have fresh : world.registry.table.get? other =
        if other = globalScheme then some {} else none := Dictionary.get?_insert
    rw [globalRouter, get?_routerFor, lower, empty, fresh]
    split <;> rfl
  have present := (prepared globalScheme).trans (if_pos rfl)
  rw [installGlobal, named, get?_addDeclared ⟨globalScheme⟩ config.routes present, prepared]
  split <;> rfl

theorem app_addAll {handle : Handle} (added : List (Route Handler)) :
    (world.addAll handle added).2.app = world.app := by
  induction added generalizing world with
  | nil => rfl
  | cons route rest ih => exact ih

theorem app_installSchemes :
    (world.installSchemes handlers schemes).2.app = world.app := by
  induction schemes generalizing world with
  | nil => rfl
  | cons scheme rest ih =>
      rw [installSchemes]
      split
      · rfl
      · exact ih.trans (app_addAll _)

section Install

variable {config : Config} (valid : config.problems = []) (handlers : String → Option Handler)
  (app : State)
include valid

theorem install_of_known
    (known : verdict handlers (config.routes.map (globalScheme, ·)) = .ok ()) :
    let result : _ × World Handler Callback State := install config handlers app
    let grown := (installGlobal config (config.routes.flatMap (·.declares handlers ""))
      app).installSchemes handlers config.schemes
    result.1 = grown.1 ∧ result.2.registry = grown.2.registry := by
  intro result grown
  have made : toRoutes handlers globalScheme config.routes =
      .ok (config.routes.flatMap (·.declares handlers "")) := by
    rw [toRoutes_eq (problems_eq_nil_iff.mp valid).2.1, known]
    rfl
  simp only [result, grown, install, installGlobal, valid, made]
  split
  · rename_i failed
    rw [failed]
    exact ⟨rfl, rfl⟩
  · rename_i finished
    rw [finished]
    exact ⟨rfl, rfl⟩

theorem install_fst : (install config handlers app : _ × World Handler Callback State).1 =
    verdict handlers config.declared := by
  obtain ⟨_, sound, sounds⟩ := problems_eq_nil_iff.mp valid
  rw [declared, verdict_append]
  cases known : verdict handlers (config.routes.map (globalScheme, ·)) with
  | error error => simp [install, valid, toRoutes_eq sound, known, Except.map, Except.bind]
  | ok _ => exact (install_of_known valid handlers app known).1.trans (installSchemes_fst sounds)

theorem install_installed (finished : verdict handlers config.declared = .ok ()) :
    config.Installed handlers
      (install config handlers app : _ × World Handler Callback State).2.registry := by
  obtain ⟨wellNamed, _, sounds⟩ := problems_eq_nil_iff.mp valid
  obtain ⟨globals, others⟩ := List.forall_mem_append.mp (verdict_eq_ok_iff.mp finished)
  have known := verdict_eq_ok_iff.mpr globals
  let world : World Handler Callback State :=
    installGlobal config (config.routes.flatMap (·.declares handlers "")) app
  have stored (key : String) : world.registry.table.get? key = _ :=
    get?_installGlobal config handlers app key
  have absent : ∀ scheme ∈ config.schemes, world.registry.table.get? scheme.name.toLower = none :=
    fun scheme member => (stored _).trans (if_neg (wellNamed.toLower_ne_global member))
  have grown := installSchemes_extends sounds wellNamed.nodup_toLower absent
    ((installSchemes_fst sounds).trans (verdict_eq_ok_iff.mpr others))
  have free : globalScheme ∉ config.schemes.map (·.name.toLower) := by
    intro taken
    obtain ⟨scheme, member, same⟩ := List.mem_map.mp taken
    exact wellNamed.toLower_ne_global member same
  rw [(install_of_known valid handlers app known).2]
  refine ⟨grown.options.trans (options_addAll _), ?_, ?_, grown.schemes⟩
  · refine (List.perm_ext_iff_of_nodup (Dictionary.nodup_keys _)
      (List.nodup_cons.mpr ⟨free, wellNamed.nodup_toLower⟩)).mpr fun key => ?_
    rw [Dictionary.mem_keys_iff, List.mem_cons]
    by_cases named : key ∈ config.schemes.map (·.name.toLower)
    · obtain ⟨scheme, member, rfl⟩ := List.mem_map.mp named
      refine ⟨fun _ => .inr named, fun _ missing => ?_⟩
      cases missing.symm.trans (grown.schemes scheme member)
    · rw [grown.others key named, stored]
      simp [named]
  · rw [grown.others globalScheme free, stored, if_pos rfl]

/-- Setting up a router leaves the application as it is. -/
theorem app_install :
    (install config handlers app : _ × World Handler Callback State).2.app = app := by
  simp only [install, valid]
  split
  · rfl
  · rename_i routes _
    have kept : ((installGlobal config routes app : World Handler Callback State).installSchemes
        handlers config.schemes).2.app = app := app_installSchemes.trans (app_addAll routes)
    split
    · rename_i ended
      exact (congrArg (·.2.app) ended).symm.trans kept
    · rename_i ended
      exact (congrArg (·.2.app) ended).symm.trans kept

end Install

/-- A table without problems is installed as it is declared.  No pattern fails to compile, and the
first declared target that is unknown is told, if there is one. -/
theorem install_declared {config : Config} (valid : config.problems = [])
    (handlers : String → Option Handler) (app : State) :
    let result : Except SetupError Unit × World Handler Callback State :=
      install config handlers app
    (∀ cause, result.1 ≠ .error (.badPattern cause)) ∧
      ((∃ scheme target, result.1 = .error (.unknownTarget scheme target)) ↔
        ∃ declared ∈ config.declared, handlers declared.2.target = none) ∧
      (∀ scheme target, result.1 = .error (.unknownTarget scheme target) ↔
        ∃ before entry behind, config.declared = before ++ (scheme, entry) :: behind ∧
          entry.target = target ∧ handlers target = none ∧
          ∀ earlier ∈ before, handlers earlier.2.target ≠ none) ∧
      ((∀ declared ∈ config.declared, handlers declared.2.target ≠ none) →
        result.1 = .ok () ∧ config.Installed handlers result.2.registry) := by
  intro result
  have decided : result.1 = verdict handlers config.declared := install_fst valid handlers app
  rw [decided]
  refine ⟨fun cause failed => ?_, ?_, fun _ _ => verdict_eq_unknownTarget_iff, fun known => ?_⟩
  · rcases verdict_cases handlers config.declared with fine | ⟨_, _, unknown⟩
    · simp [fine] at failed
    · simp [unknown] at failed
  · have failing : (∃ scheme target, verdict handlers config.declared =
        .error (.unknownTarget scheme target)) ↔ ¬verdict handlers config.declared = .ok () := by
      refine ⟨?_, (verdict_cases handlers config.declared).resolve_left⟩
      rintro ⟨_, _, unknown⟩ fine
      simp [fine] at unknown
    rw [failing, verdict_eq_ok_iff]
    simp only [ne_eq, Classical.not_forall, Classical.not_not, exists_prop]
  · have finished := verdict_eq_ok_iff.mpr known
    exact ⟨finished, install_installed valid handlers app finished⟩

/-- Two schemes besides the global one, with several patterns for a target and two priorities. -/
def mixedTable : Config where
  options := { decodePlus := false }
  routes := [⟨none, ["/", "/home"], 0, "home"⟩]
  schemes :=
    [⟨"App", true, [⟨some "/item/:id", ["/i/:id"], 1, "item"⟩, ⟨some "/*", [], 5, "home"⟩]⟩,
      ⟨"web", false, []⟩]

theorem install_mixedTable :
    let handlers : String → Option Nat := fun target =>
      if target = "home" then some 1 else if target = "item" then some 2 else none
    let result : _ × World Nat Unit Unit := install mixedTable handlers ()
    let partly : _ × World Nat Unit Unit :=
      install mixedTable (fun target => if target = "home" then some 1 else none) ()
    mixedTable.problems = [] ∧ result.1 = .ok () ∧
      result.2.registry.options.decodePlus = false ∧
      result.2.registry.table.keys.Perm ["__global__", "app", "web"] ∧
      (result.2.registry.entry "app").fallback = true ∧
      (result.2.registry.routes "app").map (fun route =>
        (route.pattern, route.priority, route.handler)) =
          [("/*", 5, some 1), ("/item/:id", 1, some 2), ("/i/:id", 1, some 2)] ∧
      partly.1 = .error (.unknownTarget "App" "item") := by
  intro handlers result partly
  have valid : mixedTable.problems = [] := by decide +kernel
  obtain ⟨_, _, _, complete⟩ := install_declared valid handlers ()
  obtain ⟨_, _, first, _⟩ := install_declared valid
    (fun target => if target = "home" then some 1 else none) ()
  obtain ⟨finished, table⟩ := complete (by decide)
  have lower : "App".toLower = "app" ∧ "web".toLower = "web" := by decide +kernel
  have found : result.2.registry.table.get? "app" = some (installed handlers "app" true
      [⟨some "/item/:id", ["/i/:id"], 1, "item"⟩, ⟨some "/*", [], 5, "home"⟩]) := by
    rw [← lower.1]
    exact table.schemes _ List.mem_cons_self
  refine ⟨valid, finished, congrArg Options.decodePlus table.options, ?_, ?_, ?_, ?_⟩
  · rw [← lower.1, ← lower.2]
    exact table.names
  · rw [Registry.entry, found]
    rfl
  · rw [Registry.routes, Registry.entry, found, Option.getD_some, installed,
      ← sortDescending_eq_mergeSort]
    decide +kernel
  · exact (first "App" "item").mpr ⟨_, _, _, rfl, rfl, rfl, by decide⟩

end World

end LinkRouting
