import LinkRouting.Proofs.Counting
import LinkRouting.Proofs.Ensures
import LinkRouting.Proofs.Matching.Merging
import LinkRouting.Proofs.Resuming

namespace LinkRouting

/-! Every dispatch that is done is counted once, and every decline once, for the scheme whose route
it was.  Handlers may do what they like meanwhile, also give up; what they leave then is what the
completed operations made, and whatever comes later starts from that.
-/

variable {Handler Callback State α β : Type}

theorem Route.scheme?_respond {route : Route Handler} {request : Request} {params : Params}
    (matched : route.respond request = some params) : params.scheme? = some route.scheme := by
  obtain ⟨candidate, _, answer⟩ := List.exists_of_findSome?_eq_some matched
  obtain ⟨binding, _, rfl⟩ := Option.map_eq_some_iff.mp answer
  exact PathPattern.scheme?_params

section Counts

variable [Url.Names]

/-- A route that was stored for `scheme` once has this handler, and answers some request with these
parameters. -/
def Stored (options : Options) (past : List (Deed Handler Callback)) (scheme : String)
    (handler : Handler) (params : Params) : Prop :=
  params.scheme? = some scheme ∧ ∃ earlier route request, earlier <:+ past ∧
    route ∈ (replay (.fresh options) earlier).routes scheme ∧ route.handler = some handler ∧
    route.respond request = some params

theorem Stored.mono {options : Options} {past later : List (Deed Handler Callback)}
    {scheme : String} {handler : Handler} {params : Params}
    (stored : Stored options past scheme handler params) (grown : past <:+ later) :
    Stored options later scheme handler params := by
  obtain ⟨named, earlier, route, request, inside, found⟩ := stored
  exact ⟨named, earlier, route, request, inside.trans grown, found⟩

/-- Handlers are called for routes that are stored. -/
def Note.Sourced (options : Options) (past : List (Deed Handler Callback)) :
    Note Handler Callback → Prop
  | .asked handler params => ∃ scheme, Stored options past scheme handler params
  | .answered handler params _ => ∃ scheme, Stored options past scheme handler params
  | _ => True

theorem Note.Sourced.mono {options : Options} {past later : List (Deed Handler Callback)}
    {note : Note Handler Callback} (sourced : note.Sourced options past) (grown : past <:+ later) :
    note.Sourced options later := by
  cases note with
  | asked handler params => exact sourced.imp fun scheme stored => stored.mono grown
  | answered handler params accepted => exact sourced.imp fun scheme stored => stored.mono grown
  | told callback handle source params => trivial
  | settled callback handle source params => trivial

/-- What holds all through a run, whatever is due.  The deeds in `since` have been done by then. -/
structure Sound (options : Options) (since : List (Deed Handler Callback))
    (world : NotedWorld Handler Callback State) : Prop where
  balanced : Balanced world
  replayed : world.registry = replay (.fresh options) world.app.past
  since : since <:+ world.app.past
  sourced : ∀ note ∈ world.notes, note.Sourced options world.app.past
  honest : ∀ handle source, .dispatched handle source (.ok true) ∈ world.app.past →
    DispatchOutcome.ofCall source true = .handled

namespace Sound

variable {options : Options} {since : List (Deed Handler Callback)}
  {world : NotedWorld Handler Callback State} (sound : Sound options since world)

include sound

theorem signal (signal : Signal) : Sound options since (world.signal signal) :=
  ⟨⟨sound.balanced.ranked, sound.balanced.answered⟩, sound.replayed, sound.since, sound.sourced,
    sound.honest⟩

theorem work (change : State → State) :
    Sound options since (StoryWorld.work world (Prod.map change id)) :=
  ⟨sound.balanced.work _, sound.replayed, sound.since, sound.sourced, sound.honest⟩

theorem write {note : Note Handler Callback} (sourced : note.Sourced options world.app.past) :
    Sound options since (world.write note) := by
  refine ⟨sound.balanced.work _, sound.replayed, sound.since, fun other member => ?_, sound.honest⟩
  rcases List.mem_cons.mp member with rfl | older
  · exact sourced
  · exact sound.sourced other older

theorem remember {later : NotedWorld Handler Callback State} (same : later.app = world.app)
    {deed : Deed Handler Callback} (balanced : Balanced (later.remember deed))
    (replayed : later.registry = replay (.fresh options) (later.remember deed).app.past)
    (honest : ∀ handle source, deed = .dispatched handle source (.ok true) →
      DispatchOutcome.ofCall source true = .handled) :
    Sound options since (later.remember deed) := by
  have past : (later.remember deed).app.past = deed :: world.app.past := by
    rw [← same]
    rfl
  have notes : (later.remember deed).app.own = world.app.own := by
    rw [← same]
    rfl
  refine ⟨balanced, replayed, ?_, fun note member => ?_, fun handle source member => ?_⟩
  · rw [past]
    exact sound.since.trans (List.suffix_cons _ _)
  · rw [NotedWorld.notes, notes] at member
    rw [past]
    exact (sound.sourced note member).mono (List.suffix_cons _ _)
  · rw [past] at member
    rcases List.mem_cons.mp member with latest | older
    · exact honest handle source latest.symm
    · exact sound.honest handle source older

theorem used (operation : Operation Handler Callback) : Sound options since
    (StoryWorld.remember (operation.perform world).2
      (.used operation (operation.perform world).1)) := by
  refine sound.remember Operation.app_perform (sound.balanced.use operation) ?_ nofun
  exact (StoryWorld.lasting_replay (.fresh options)).use world operation sound.replayed

theorem dispatched (handle : Handle) (source : String) (handled : Except String Bool)
    (honest : handled = .ok true → DispatchOutcome.ofCall source true = .handled) :
    Sound options since (StoryWorld.remember world (.dispatched handle source handled)) := by
  refine sound.remember rfl (sound.balanced.dispatched handle source handled) sound.replayed ?_
  rintro _ _ same
  cases same
  exact honest rfl

omit sound in
theorem rebase {earlier : List (Deed Handler Callback)} (sound : Sound options since world)
    (inside : earlier <:+ since) : Sound options earlier world :=
  { sound with since := inside.trans sound.since }

/-- Routes are registered for the schemes that they are stamped with. -/
theorem stored (scheme : String) : ∀ route ∈ world.registry.routes scheme,
    route ∈ (replay (.fresh options) world.app.past).routes route.scheme := by
  intro route member
  have stamp : route.scheme = scheme :=
    scheme_of_mem_ledger world.app.past route ((sound.balanced.ranked scheme).mem_iff.mp member)
  rwa [stamp, ← sound.replayed]

end Sound

/-- A sound world whose counters are even once `closing` is done. -/
structure Tallied (options : Options) (since : List (Deed Handler Callback))
    (closing : NotedWorld Handler Callback State → NotedWorld Handler Callback State)
    (world : NotedWorld Handler Callback State) : Prop where
  sound : Sound options since world
  even : (closing world).Even

/-- An action keeps worlds sound and counters even, but for what is due when it returns. -/
def Action.Accounts (options : Options) (since : List (Deed Handler Callback))
    (action : Action (NotedWorld Handler Callback State) α)
    (closing : α → NotedWorld Handler Callback State → NotedWorld Handler Callback State) : Prop :=
  Ensures (Tallied options since id) action (fun value => Tallied options since (closing value))
    (Tallied options since id)

/-- An action that begins in `world` accounts for itself since any earlier time. -/
theorem Action.Accounts.since {options : Options} {since : List (Deed Handler Callback)}
    {world : NotedWorld Handler Callback State}
    {action : Action (NotedWorld Handler Callback State) α}
    {closing : α → NotedWorld Handler Callback State → NotedWorld Handler Callback State}
    (accounts : Accounts options world.app.past action closing)
    (tallied : Tallied options since id world) :
    Ensures (· = world) action (fun value => Tallied options since (closing value))
      (Tallied options since id) := by
  have inside : since <:+ world.app.past := tallied.sound.since
  refine accounts.mono ?_ ?_ ?_
  · rintro _ rfl
    exact ⟨{ tallied.sound with since := List.suffix_refl _ }, tallied.even⟩
  · exact fun _ later held => ⟨held.sound.rebase inside, held.even⟩
  · exact fun later held => ⟨held.sound.rebase inside, held.even⟩

namespace Application

open LinkRouting.Action

variable {options : Options} {since : List (Deed Handler Callback)}
  {app : Application Handler Callback (Story Handler Callback (Noted Handler Callback State))}

/-- Handlers leave only their declines to be counted, and callbacks the dispatch that told them to
be done. -/
structure Tallies (options : Options)
    (app : Application Handler Callback (Story Handler Callback (Noted Handler Callback State))) :
    Prop where
  handle : ∀ since scheme handler params, Stored options since scheme handler params →
    Accounts options since (app.handle handler params) fun accepted world =>
      if accepted then world else world.measure (.declined scheme)
  unmatched : ∀ since callback handle source params,
    DispatchOutcome.ofCall source false = .unmatched →
    Ensures
      (Tallied options since (StoryWorld.remember · (.dispatched handle source (.ok false))))
      (app.unmatched callback handle source params)
      (fun _ =>
        Tallied options since (StoryWorld.remember · (.dispatched handle source (.ok false))))
      (Tallied options since id)

namespace Tallies

variable (tallies : app.Tallies options)

include tallies

theorem accept {route : Route Handler} {request : Request} {params : Params}
    (stored : route ∈ (replay (.fresh options) since).routes route.scheme)
    (matched : route.respond request = some params) :
    Accounts options since (app.accept route params) fun accepted world =>
      if accepted then world else world.measure (.declined route.scheme) := by
  unfold Application.accept Route.call
  split
  · exact .pure fun world tallied => tallied
  · rename_i handler handles
    refine tallies.handle since route.scheme handler params ⟨?_, since, route, request, ?_⟩
    · exact Route.scheme?_respond matched
    · exact ⟨List.suffix_refl since, stored, handles, matched⟩

theorem attempt {request : Request} (routes : List (Route Handler))
    (stored : ∀ route ∈ routes, route ∈ (replay (.fresh options) since).routes route.scheme) :
    Accounts options since (app.attempt (offers request routes)) fun _ => id := by
  induction routes with
  | nil => exact .pure fun world tallied => tallied
  | cons route rest ih =>
      have others := ih fun other member => stored other (List.mem_cons_of_mem route member)
      cases matched : route.respond request with
      | none =>
          rw [offers_cons_of_none matched]
          exact others
      | some params =>
          rw [offers_cons_of_some matched]
          refine .bind (.modify fun world tallied => ?_) fun _ => .bind
            (tallies.accept (stored route List.mem_cons_self) matched) fun accepted => ?_
          · exact ⟨tallied.sound.signal _, tallied.even.log _⟩
          · cases accepted with
            | true => exact .pure fun world tallied => tallied
            | false =>
                refine .bind (.modify fun world tallied => ?_) fun _ => others
                have even := NotedWorld.Even.log_measure tallied.even
                exact ⟨(tallied.sound.signal _).signal _, even _⟩

theorem walk (request : Request) {routes : List (Route Handler)}
    (stored : ∀ route ∈ routes, route ∈ (replay (.fresh options) since).routes route.scheme) :
    Accounts options since (app.walk request routes) fun _ => id := by
  rw [walk_eq_attempt]
  exact tallies.attempt routes stored

/-- The global routes are those that are stored when their turn comes. -/
theorem walkGlobal (handle : Handle) (request : Request) :
    Accounts options since (app.walkGlobal handle request) fun _ => id := by
  refine .bind (.modify fun world tallied => ?_) fun _ =>
    .bind_get fun world (tallied : Tallied options since id world) => ?_
  · exact ⟨tallied.sound.signal _, tallied.even.log _⟩
  · exact (tallies.walk request (tallied.sound.stored globalScheme)).since tallied

theorem resort (handle : Handle) (entry : Entry Handler Callback) (request : Request)
    (own : Bool) : Accounts options since (app.resort handle entry request own) fun _ => id := by
  unfold Application.resort
  split
  · exact tallies.walkGlobal handle request
  · exact .pure fun world tallied => tallied

theorem conclude (handle : Handle) (entry : Entry Handler Callback) (request : Request) {url : Url}
    (parsed : Url.parse request.source = .ok url) (handled : Bool) :
    Accounts options since (app.conclude handle entry request handled) fun handled =>
      (StoryWorld.remember · (.dispatched handle request.source (.ok handled))) := by
  have outcome (handled : Bool) : DispatchOutcome.ofCall request.source handled =
      if handled then .handled else .unmatched := by
    simp only [DispatchOutcome.ofCall, parsed]
  cases handled with
  | true =>
      refine .bind (.modify fun world tallied => ?_) fun _ => .pure fun world tallied => tallied
      have even := tallied.even.dispatched handle request.source true
      rw [outcome] at even
      exact ⟨tallied.sound.signal _, even⟩
  | false =>
      let due : NotedWorld Handler Callback State → Prop := Tallied options since
        (StoryWorld.remember · (.dispatched handle request.source (.ok false)))
      have counted : Ensures (Tallied options since id)
          (modify (World.logUnhandled · handle request)) (fun _ => due)
          (Tallied options since id) := by
        refine .modify fun world tallied => ⟨(tallied.sound.signal _).signal _, ?_⟩
        have logged := tallied.even.log (.unhandledUrl handle.scheme request.source)
        have even := logged.dispatched handle request.source false
        rwa [outcome] at even
      refine counted.bind fun _ => ?_
      split
      · exact .pure fun world tallied => tallied
      · exact .bind (tallies.unmatched since _ handle request.source _ (outcome false))
          fun _ => .pure fun world tallied => tallied

theorem dispatch (handle : Handle) (entry : Entry Handler Callback) (request : Request) {url : Url}
    (parsed : Url.parse request.source = .ok url) (stored : ∀ route ∈ entry.routes,
      route ∈ (replay (.fresh options) since).routes route.scheme) :
    Accounts options since (app.dispatch handle entry request) fun handled =>
      (StoryWorld.remember · (.dispatched handle request.source (.ok handled))) := by
  rw [dispatch_eq_phases]
  exact .bind (.bind (tallies.walk request stored) (tallies.resort handle entry request))
    (tallies.conclude handle entry request parsed)

/-- A dispatch that returns has been counted, but has not been put down yet. -/
theorem route (handle : Handle) (source : String) (params : Params) :
    Ensures (Tallied options since id) (app.route handle source params)
      (fun handled world =>
        Tallied options since (StoryWorld.remember · (.dispatched handle source (.ok handled)))
          world ∧ (handled = true → DispatchOutcome.ofCall source true = .handled))
      (Tallied options since id) := by
  unfold Application.route
  split
  · rename_i error refused
    have outcome : DispatchOutcome.ofCall source false = .invalidUrl := by
      simp only [DispatchOutcome.ofCall, refused]
    refine .bind (.modify fun world tallied => ?_) fun _ => .pure fun world tallied =>
      ⟨tallied, nofun⟩
    have even := (tallied.even.log (.unparseableUrl handle.scheme source error)).dispatched handle
      source false
    rw [outcome] at even
    exact ⟨(tallied.sound.signal _).signal _, even⟩
  · rename_i url parsed
    have outcome : DispatchOutcome.ofCall source true = .handled := by
      simp only [DispatchOutcome.ofCall, parsed, if_true]
    refine .bind_get fun world tallied => ?_
    have dispatched := tallies.dispatch handle (world.registry.entry handle.scheme)
      (world.request source url params) parsed (tallied.sound.stored handle.scheme)
    exact (dispatched.since tallied).mono (fun _ => id) (fun _ _ held => ⟨held, fun _ => outcome⟩)
      fun _ => id

end Tallies

end Application

namespace Program

open LinkRouting.Action

variable {options : Options} {since : List (Deed Handler Callback)}
  {app : Application Handler Callback (Story Handler Callback (Noted Handler Callback State))}
  {after : β → NotedWorld Handler Callback State → Prop}

theorem ensures_note {before held broken : NotedWorld Handler Callback State → Prop}
    {note : Note Handler Callback}
    {next : Program Handler Callback (Noted Handler Callback State) β}
    (written : ∀ world, before world → held (world.write note))
    (ensured : Ensures held (next.run app) after broken) :
    Ensures before ((next.note note).run app) after broken :=
  fun world ready => ensured (world.write note) (written world ready)

theorem ensures_noted (tallies : app.Tallies options)
    {finish : α → Program Handler Callback (Noted Handler Callback State) β}
    (ends : ∀ value, Ensures (Tallied options since id) ((finish value).run app) after
      (Tallied options since id)) (program : Program Handler Callback State α) :
    Ensures (Tallied options since id) ((program.noted finish).run app) after
      (Tallied options since id) := by
  induction program with
  | done value => exact ends value
  | panic message => exact .panic fun world tallied => tallied
  | work change next ih =>
      refine .bind (.modify fun world tallied => ?_) fun _ =>
        .bind_get fun world (tallied : Tallied options since id world) => ?_
      · exact ⟨tallied.sound.work change, tallied.even⟩
      · refine (ih world.app.own.1).mono ?_ (fun _ _ => id) fun _ => id
        rintro _ rfl
        exact tallied
  | use operation next ih =>
      -- Between an operation and the note of it the story lags behind, so they are one step.
      intro world tallied
      exact ih _ _ ⟨tallied.sound.used operation, tallied.even.used operation⟩
  | dispatch handle source params next ih =>
      have routed : Ensures (Tallied options since id)
          (Action.guarded (app.route handle source params))
          (fun handled world => Tallied options since id
            (StoryWorld.remember world (.dispatched handle source handled)))
          (Tallied options since id) := by
        refine .guarded (tallies.route handle source params) ?_ ?_
        · rintro handled world ⟨tallied, honest⟩
          refine ⟨tallied.sound.dispatched handle source _ fun same => ?_, tallied.even⟩
          exact honest (Except.ok.inj same)
        · intro message world tallied
          exact ⟨tallied.sound.dispatched handle source _ nofun,
            tallied.even.gaveUp handle source message⟩
      exact routed.bind fun handled => .bind (.modify fun world tallied => tallied)
        fun _ => ih handled

end Program

/-- By induction on how deep handlers may be nested. -/
theorem Conduct.tallies (conduct : Conduct Handler Callback State) (options : Options)
    (depth : Nat) : (conduct.noted.application depth).Tallies options := by
  induction depth with
  | zero => exact ⟨fun _ _ _ _ _ => .exhausted, fun _ _ _ _ _ _ => .exhausted⟩
  | succ depth ih =>
      constructor
      · intro since scheme handler params stored
        have asked (world : NotedWorld Handler Callback State)
            (tallied : Tallied options since id world) :
            Tallied options since id (world.write (.asked handler params)) :=
          ⟨tallied.sound.write ⟨scheme, stored.mono tallied.sound.since⟩,
            tallied.even.asked handler params⟩
        refine Program.ensures_note asked (Program.ensures_noted ih (fun accepted => ?_) _)
        refine Program.ensures_note (fun world tallied => ?_) (.pure fun _ => id)
        refine ⟨tallied.sound.write ⟨scheme, stored.mono tallied.sound.since⟩, ?_⟩
        cases accepted with
        | true => exact tallied.even.accepted handler params
        | false => exact tallied.even.declined handler stored.1
      · intro since callback handle source params unmatched
        refine Program.ensures_note (fun world tallied => ?_)
          (Program.ensures_noted ih (fun _ => ?_) _)
        · exact ⟨tallied.sound.write trivial, tallied.even.told unmatched callback params⟩
        · refine Program.ensures_note (fun world tallied => ?_) (.pure fun _ => id)
          exact ⟨tallied.sound.write trivial, tallied.even.settled unmatched callback params⟩

/-- Every callback that was called has returned. -/
def Settled (notes : List (Note Handler Callback)) : Prop :=
  (notes.filterMap Note.told?).Perm (notes.filterMap Note.settled?)

namespace Tallied

variable {options : Options} {since : List (Deed Handler Callback)}
  {world : NotedWorld Handler Callback State} (tallied : Tallied options since id world)

include tallied

theorem total_dispatched (settled : Settled world.notes) (scheme : String)
    (outcome : DispatchOutcome) : world.total (.dispatched scheme outcome) =
      (world.app.past.filterMap Deed.metric?).count (.dispatched scheme outcome) := by
  have even := tallied.even (.dispatched scheme outcome) rfl
  have due := settled.count_eq (.dispatched scheme outcome)
  rw [id_eq, count_declined_dispatched] at even
  omega

theorem total_declined (scheme : String) : world.total (.declined scheme) =
    (world.notes.filterMap Note.declined?).count (.declined scheme) := by
  have even := tallied.even (.declined scheme) rfl
  rw [id_eq, count_deeds_declined, count_told_declined, count_settled_declined] at even
  omega

end Tallied

theorem Program.tallied_runNoted (conduct : Conduct Handler Callback State) (options : Options)
    (own : State) (depth : Nat) (program : Program Handler Callback State α)
    (uncut : (program.runNoted conduct depth (.fresh options ⟨own, []⟩)).1 ≠ .halted .exhausted) :
    Tallied options [] id (program.runNoted conduct depth (.fresh options ⟨own, []⟩)).2 := by
  have ends (value : α) : Action.Ensures (Tallied options [] id)
      ((Program.done value).run (conduct.noted.application depth))
      (fun _ => Tallied options [] id) (Tallied options [] id) :=
    .pure fun world tallied => tallied
  have began : Tallied options [] id
      (.fresh options ⟨(own, []), []⟩ : NotedWorld Handler Callback State) :=
    { sound :=
        { balanced := .fresh options (own, [])
          replayed := rfl
          since := List.suffix_refl []
          sourced := fun _ => nofun
          honest := fun _ _ => nofun }
      even := fun _ _ => rfl }
  exact (program.ensures_noted (conduct.tallies options depth) ends _ began).whole uncut

/-- The counters show what was done.  Each dispatch that was done counts once, by its handle and by
how it ended, and each decline once, by the scheme under which its route was stored.  Whoever gave
up meanwhile, the completed operations made the registry, and anything later starts from there. -/
theorem dispatches_tallied (conduct : Conduct Handler Callback State) (options : Options)
    (own : State) (depth : Nat) (program : Program Handler Callback State α) :
    let start : StoryWorld Handler Callback State := .fresh options ⟨own, []⟩
    let ended := program.run (conduct.application depth) start
    let notes := program.notes conduct depth start
    let past := ended.2.app.past
    let left := replay (.fresh options) past
    (ended.1 ≠ .halted .exhausted →
      (Settled notes → ∀ scheme outcome, ended.2.total (.dispatched scheme outcome) =
        (past.filterMap Deed.metric?).count (.dispatched scheme outcome)) ∧
      (∀ handle source handled, .dispatched handle source (.ok handled) ∈ past →
        (DispatchOutcome.ofCall source handled = .invalidUrl ↔
          ∃ error, Url.parse source = .error error) ∧
        (DispatchOutcome.ofCall source handled = .handled ↔ handled = true)) ∧
      (∀ scheme, ended.2.total (.declined scheme) =
        (notes.filterMap Note.declined?).count (.declined scheme)) ∧
      ∀ handler params accepted, .answered handler params accepted ∈ notes →
        ∃ scheme, Stored options past scheme handler params) ∧
    ended.2.registry = left ∧
    ∀ (β : Type) (next : Program Handler Callback State β) (further : Nat),
      next.run (conduct.application further) ended.2 =
        (next.run (conduct.application further) (.begin left ended.2.app.own)).map id
          ended.2.goOn ∧
      next.notes conduct further ended.2 =
        next.notes conduct further (.begin left ended.2.app.own) := by
  intro start ended notes past left
  have lasting : StoryWorld.Lasting fun world : StoryWorld Handler Callback State =>
      world.registry = replay (.fresh options) world.app.past :=
    StoryWorld.lasting_replay _
  have registry : ended.2.registry = left :=
    lasting.run (lasting.keeps conduct depth) program start rfl
  refine ⟨fun uncut => ?_, registry, fun β next further => ?_⟩
  · let twin := program.runNoted conduct depth start
    have shown : ended = twin.map id (World.mapApp Story.plain) :=
      program.run_eq_runNoted conduct depth start
    have total (metric : Metric) : ended.2.total metric = twin.2.total metric := by
      rw [shown]
      rfl
    have deeds : past = twin.2.app.past := by
      change ended.2.app.past = _
      rw [shown]
      rfl
    have tallied : Tallied options [] id twin.2 := by
      refine program.tallied_runNoted conduct options own depth fun cut => uncut ?_
      rw [shown]
      exact cut
    rw [deeds]
    refine ⟨fun settled scheme outcome => ?_, fun handle source handled member => ⟨?_, ?_⟩,
      fun scheme => ?_, fun handler params accepted member => ?_⟩
    · rw [total]
      exact tallied.total_dispatched settled scheme outcome
    · exact DispatchOutcome.ofCall_eq_invalidUrl_iff source handled
    · cases handled with
      | true => exact iff_of_true (tallied.sound.honest handle source member) rfl
      | false => exact iff_of_false (DispatchOutcome.ofCall_false_ne_handled source) nofun
    · rw [total]
      exact tallied.total_declined scheme
    · exact tallied.sound.sourced (.answered handler params accepted) member
  · rw [← registry]
    exact ⟨next.run_begin conduct further ended.2, next.notes_begin conduct further ended.2⟩

end Counts

/-- Handlers that answer what they are, and one that gives up. -/
def resigning : Conduct (Option Bool) Unit Unit where
  handle handler _ :=
    match handler with
    | none => .panic "resigned"
    | some accepted => .done accepted
  unmatched _ _ _ _ := .done ()

/-- Routes a URL that a route of the scheme declines and then a global one, and another URL whose
handler gives up. -/
def vainly : Program (Option Bool) Unit Unit Unit :=
  .use (.addPattern ⟨"app"⟩ "/a" 0 (some false)) fun _ =>
  .use (.addPattern ⟨"app"⟩ "/b" 0 none) fun _ =>
  .use (.addPattern .global "/:x" 0 (some false)) fun _ =>
  .use (.setFallback ⟨"app"⟩ true) fun _ =>
  .use (.setUnmatched ⟨"app"⟩ ()) fun _ =>
  .dispatch ⟨"app"⟩ "app:/a" .empty fun _ =>
  .dispatch ⟨"app"⟩ "app:/b" .empty fun _ => .done ()

theorem dispatches_tallied_vainly :
    let start : StoryWorld (Option Bool) Unit Unit := .fresh {} ⟨(), []⟩
    let ended := vainly.run (resigning.application 1) start
    ended.1 ≠ .halted .exhausted ∧ Settled (vainly.notes resigning 1 start) ∧
      ended.2.total (.dispatched "app" .unmatched) = 1 ∧
      ended.2.total (.dispatched "app" .handled) = 0 ∧
      ended.2.total (.declined "app") = 1 ∧ ended.2.total (.declined "__global__") = 1 := by
  intro start ended
  have uncut : ended.1 ≠ .halted .exhausted := by decide +kernel
  have settled : Settled (vainly.notes resigning 1 start) := by
    refine .of_eq ?_
    decide +kernel
  obtain ⟨dispatched, _, declined, _⟩ := (dispatches_tallied resigning {} () 1 vainly).1 uncut
  refine ⟨uncut, settled, ?_⟩
  rw [dispatched settled, dispatched settled, declined, declined]
  decide +kernel

end LinkRouting
