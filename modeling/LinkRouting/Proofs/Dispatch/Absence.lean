import LinkRouting.Proofs.Dispatch.Course
import LinkRouting.Proofs.Dispatch.Query
import LinkRouting.Proofs.Registry
import LinkRouting.Router.Target

namespace LinkRouting

/-! A route whose target is gone, or which cannot build what it needs, against no route at all.  It
declines in its turn and does nothing else.  As long as the other handlers leave the table of routes
alone, the dispatch goes on as it does without the route, with one call more.
-/

variable {Handler Callback State α : Type}

/-- A list with at most one item more than another has. -/
def Spliced (extra : Option α) (whole rest : List α) : Prop :=
  ∃ before behind, whole = before ++ extra.toList ++ behind ∧ rest = before ++ behind

namespace Spliced

variable {extra : Option α} {whole rest : List α}

theorem refl (whole : List α) : Spliced none whole whole :=
  ⟨whole, [], by simp, by simp⟩

theorem append (spliced : Spliced extra whole rest) (more : List α) :
    Spliced extra (whole ++ more) (rest ++ more) := by
  obtain ⟨before, behind, rfl, rfl⟩ := spliced
  exact ⟨before, behind ++ more, by simp, by simp⟩

theorem insert (spliced : Spliced none whole rest) (a : α) :
    Spliced (some a) (whole ++ [a]) rest := by
  obtain ⟨before, behind, rfl, rfl⟩ := spliced
  exact ⟨before ++ behind, [], by simp, by simp⟩

end Spliced

namespace World

/-- The worlds have these tables and may differ in their journals, but in nothing else. -/
structure Apart (table other : Dictionary (Entry Handler Callback))
    (world twin : World Handler Callback State) : Prop where
  table : world.registry.table = table
  other : twin.registry.table = other
  options : world.registry.options = twin.registry.options
  app : world.app = twin.app

/-- What a handler does that forwards to a target in the world. -/
def forwarding {Target : Type} (find : World Handler Callback State → Option Target)
    (forward : Target → Params → Action (World Handler Callback State) Bool) :
    Params → Action (World Handler Callback State) Bool :=
  forwardTo (fun event => Action.modify (·.log event))
    (Action.step fun world => (find world, world)) forward

/-- The world in which a scheme has these routes. -/
def withRoutes (world : World Handler Callback State) (scheme : String)
    (routes : List (Route Handler)) : World Handler Callback State :=
  world.amend (·.update scheme fun entry => { entry with routes })

theorem mem_reach {world : World Handler Callback State} {handle : Handle}
    {route : Route Handler} : route ∈ world.reach handle ↔
      route ∈ world.registry.routes handle.scheme ∨
        world.fallsBack handle = true ∧ route ∈ world.registry.routes globalScheme := by
  rw [reach, List.mem_append]
  refine or_congr .rfl ?_
  split <;> simp [*]

theorem foreign_of_fallsBack {world : World Handler Callback State} {handle : Handle}
    (follows : world.fallsBack handle = true) : handle.scheme ≠ globalScheme := by
  rw [fallsBack, Bool.and_eq_true, Bool.not_eq_true', Handle.isGlobal, decide_eq_false_iff_not]
    at follows
  exact follows.2

section WithRoutes

variable {world : World Handler Callback State} {scheme other : String} {handle : Handle}
  {routes : List (Route Handler)}

theorem routes_withRoutes : (world.withRoutes scheme routes).registry.routes other =
    if other = scheme then routes else world.registry.routes other := by
  have changed : (world.withRoutes scheme routes).registry.entry other =
      if other = scheme then { world.registry.entry scheme with routes }
      else world.registry.entry other := Registry.entry_update
  rw [Registry.routes, changed]
  split <;> rfl

theorem unmatched_withRoutes : ((world.withRoutes scheme routes).registry.entry other).unmatched =
    (world.registry.entry other).unmatched :=
  Registry.update_keeps Entry.unmatched fun _ => rfl

theorem fallsBack_withRoutes :
    (world.withRoutes scheme routes).fallsBack handle = world.fallsBack handle :=
  congrArg (· && !handle.isGlobal) (Registry.update_keeps Entry.fallback fun _ => rfl)

end WithRoutes

end World

/-- An action that does not look at the table of routes or into the journal, and leaves the table
as it is.  The options of requests are not part of the table. -/
def Action.Aloof (action : Action (World Handler Callback State) α) : Prop :=
  ∀ table other, Action.Paired (World.Apart table other) action action

namespace Application

/-- The handler of the route, if it has one, leaves the table alone. -/
def Aloof (app : Application Handler Callback State) (route : Route Handler) : Prop :=
  ∀ handler params, route.handler = some handler → (app.handle handler params).Aloof

/-- A handler that has lost its target, or that cannot build what it needs. -/
inductive Vacant (app : Application Handler Callback State) (handler : Handler) (params : Params)
    (world : World Handler Callback State) : Prop where
  | dropped {Target : Type} (find : World Handler Callback State → Option Target)
      (forward : Target → Params → Action (World Handler Callback State) Bool)
      (forwards : app.handle handler = World.forwarding find forward) (gone : find world = none)
  | unbuilt {Built : Type} (build : Params → Option Built)
      (complete : Built → Action (World Handler Callback State) Bool)
      (builds : app.handle handler = buildFrom build complete) (nothing : build params = none)

/-- A dispatch that began in `world` has come to what stands behind `front` among the routes of a
scheme.  All that was tried before has declined. -/
inductive Turn (app : Application Handler Callback State) (world : World Handler Callback State)
    (handle : Handle) (request : Request) (scheme : String) (front : List (Route Handler))
    (now : World Handler Callback State) : Prop where
  | own (first : scheme = handle.scheme)
      (declined : app.attempt (offers request front) world = (.returned false, now))
  | global {middle : World Handler Callback State} (last : scheme = globalScheme)
      (follows : world.fallsBack handle = true)
      (own : app.attempt (offers request (world.registry.entry handle.scheme).routes) world =
        (.returned false, middle))
      (declined : app.attempt (offers request front)
        (middle.log (.fallingBack handle.scheme request.source)) = (.returned false, now))

/-- When its turn comes, and it matches, the handler of the route has nothing to go by. -/
def VacantTurn (app : Application Handler Callback State) (world : World Handler Callback State)
    (handle : Handle) (request : Request) (scheme : String) (front : List (Route Handler))
    (route : Route Handler) : Prop :=
  ∀ params now, route.respond request = some params →
    app.Turn world handle request scheme front now →
    ∃ handler, route.handler = some handler ∧ app.Vacant handler params (now.logMatch route params)

end Application

/-- No call, or one by which the route is asked. -/
def Asks (route : Route Handler) (extra : Option (Call Handler Callback)) : Prop :=
  ∀ call ∈ extra, ∃ handler params, route.handler = some handler ∧ call = .handler handler params

/-- Watched worlds apart from each other, in the first of which at most one call more was made. -/
structure World.Parallel (extra : Option (Call Handler Callback))
    (table other : Dictionary (Entry Handler Callback))
    (world twin : WatchedWorld Handler Callback State) : Prop where
  apart : World.Apart table other (world.mapApp Prod.fst) (twin.mapApp Prod.fst)
  calls : Spliced extra world.calls twin.calls

namespace Application

variable {app : Application Handler Callback State} {extra : Option (Call Handler Callback)}
  {table other : Dictionary (Entry Handler Callback)}

open World (Parallel)

theorem forwarding_apply {Target : Type} (find : World Handler Callback State → Option Target)
    (forward : Target → Params → Action (World Handler Callback State) Bool) (params : Params)
    (world : World Handler Callback State) :
    World.forwarding find forward params world =
      match find world with
      | some target => forward target params world
      | none => (.returned false, world.log (.targetDropped (params.pattern?.getD ""))) := by
  rw [World.forwarding, forwardTo, Action.bind_apply]
  simp only [Action.step]
  cases find world <;> rfl

theorem Vacant.declines {handler : Handler} {params : Params}
    {world : World Handler Callback State} (vacant : app.Vacant handler params world) :
    ∃ after, app.handle handler params world = (.returned false, after) ∧ world.Told after := by
  cases vacant with
  | dropped find forward forwards gone =>
      rw [forwards, forwarding_apply, gone]
      exact ⟨_, rfl, (World.Told.refl world).signal _⟩
  | unbuilt build complete builds nothing =>
      rw [builds, buildFrom, nothing]
      exact ⟨world, rfl, .refl world⟩

section Parallel

variable {world twin : WatchedWorld Handler Callback State}

/-- It does not matter what either world logs. -/
theorem parallel_journals (parallel : Parallel extra table other world twin)
    (journal also : List Signal) :
    Parallel extra table other { world with journal } { twin with journal := also } :=
  ⟨⟨parallel.apart.table, parallel.apart.other, parallel.apart.options, parallel.apart.app⟩,
    parallel.calls⟩

theorem watch_parallel {action : Action (World Handler Callback State) α} (aloof : action.Aloof)
    (call : Call Handler Callback) :
    Action.Paired (Parallel extra table other) (watch call action) (watch call action) := by
  intro world twin parallel
  obtain ⟨outcome, apart⟩ := aloof table other _ _ parallel.apart
  exact ⟨outcome, apart, parallel.calls.append [call]⟩

theorem accept_parallel {route : Route Handler} (aloof : app.Aloof route) (params : Params) :
    Action.Paired (Parallel extra table other) (app.watched.accept route params)
      (app.watched.accept route params) := by
  unfold accept Route.call
  split
  · exact .pure true
  · rename_i handler bound
    exact watch_parallel (aloof handler params bound) _

theorem attempt_parallel {request : Request} {routes : List (Route Handler)}
    (aloof : ∀ route ∈ routes, app.Aloof route) :
    Action.Paired (Parallel extra table other) (app.watched.attempt (offers request routes))
      (app.watched.attempt (offers request routes)) := by
  have abreast : ∀ offer ∈ offers request routes,
      Abreast (Parallel extra table other) app.watched app.watched offer offer := by
    intro offer offered
    obtain ⟨route, member, answer⟩ := List.mem_filterMap.mp offered
    obtain ⟨params, -, rfl⟩ := Option.map_eq_some_iff.mp answer
    refine ⟨fun _ _ parallel => ?_, accept_parallel (aloof route member) params,
      fun _ _ parallel => ?_⟩
    · exact parallel_journals parallel _ _
    · exact parallel_journals parallel _ _
  exact attempt_of_abreast (List.forall₂_same.mpr abreast)

end Parallel

/-- Two results in which the same came out, in worlds that go together. -/
def Alike {Context Other : Type} (related : Context → Other → Prop) (result : Outcome α × Context)
    (other : Outcome α × Other) : Prop :=
  result.1 = other.1 ∧ related result.2 other.2

theorem Alike.orElse {Context : Type} {first last : Context → Context → Prop}
    {action twin next following : Action Context Bool} {state other : Context}
    (tried : Alike first (action state) (twin other))
    (ended : ∀ now apart, first now apart → last now apart)
    (rest : ∀ now apart, action state = (.returned false, now) → first now apart →
      Alike last (next now) (following apart)) :
    Alike last (action.orElse next state) (twin.orElse following other) := by
  unfold Action.orElse
  generalize action state = result at tried rest ⊢
  generalize twin other = reply at tried ⊢
  obtain ⟨outcome, now⟩ := result
  obtain ⟨answer, apart⟩ := reply
  obtain ⟨rfl, together⟩ := tried
  cases outcome with
  | halted cause => exact ⟨rfl, ended now apart together⟩
  | returned accepted =>
      cases accepted with
      | true => exact ⟨rfl, ended now apart together⟩
      | false => exact rest now apart rfl together

/-- The first world has seen the calls of the second, and besides at most one of this route. -/
def Beside (route : Route Handler) (table other : Dictionary (Entry Handler Callback))
    (world twin : WatchedWorld Handler Callback State) : Prop :=
  ∃ extra, Asks route extra ∧ Parallel extra table other world twin

section Beside

variable {world twin : WatchedWorld Handler Callback State} {request : Request}
  {route : Route Handler}

theorem beside_of_parallel (parallel : Parallel none table other world twin) :
    Beside route table other world twin :=
  ⟨none, nofun, parallel⟩

/-- The route is asked, declines, and leaves nothing behind but the call. -/
theorem accept_vacant {handler : Handler} {params : Params} (bound : route.handler = some handler)
    (vacant : app.Vacant handler params (world.mapApp Prod.fst))
    (parallel : Parallel none table other world twin) :
    ∃ after, app.watched.accept route params world = (.returned false, after) ∧
      Parallel (some (.handler handler params)) table other after twin := by
  obtain ⟨later, declined, told⟩ := vacant.declines
  refine ⟨later.mapApp fun own => (own, world.calls ++ [.handler handler params]), ?_, ?_⟩
  · simp only [accept, Route.call, bound]
    change Prod.map id _ (app.handle handler params (world.mapApp Prod.fst)) = _
    rw [declined]
    rfl
  · obtain ⟨records, rfl⟩ := told
    obtain ⟨kept, apart, options, app⟩ := parallel.apart
    exact ⟨⟨kept, apart, options, app⟩, parallel.calls.insert _⟩

theorem attempt_beside {front back : List (Route Handler)}
    (ahead : ∀ other ∈ front, app.Aloof other) (behind : ∀ other ∈ back, app.Aloof other)
    (parallel : Parallel none table other world twin)
    (vacant : ∀ params now, route.respond request = some params →
      app.watched.attempt (offers request front) world = (.returned false, now) →
      ∃ handler, route.handler = some handler ∧
        app.Vacant handler params ((now.logMatch route params).mapApp Prod.fst)) :
    Alike (Beside route table other)
      (app.watched.attempt (offers request (front ++ route :: back)) world)
      (app.watched.attempt (offers request (front ++ back)) twin) := by
  rw [offers_append, offers_append, attempt_append, attempt_append]
  refine Alike.orElse (attempt_parallel ahead world twin parallel)
    (fun _ _ => beside_of_parallel) fun now apart ended together => ?_
  cases matched : route.respond request with
  | none =>
      rw [offers_cons_of_none matched]
      exact (attempt_parallel behind now apart together).imp_right beside_of_parallel
  | some params =>
      -- Its turn has come: from here on the first run is one call ahead.
      obtain ⟨handler, bound, idle⟩ := vacant params now matched ended
      have logged := parallel_journals together (now.logMatch route params).journal apart.journal
      obtain ⟨after, declined, others⟩ := accept_vacant bound idle logged
      rw [offers_cons_of_some matched, attempt_cons, declined]
      obtain ⟨outcome, rest⟩ := attempt_parallel behind (after.logDecline route) apart
        (parallel_journals others _ apart.journal)
      refine ⟨outcome, some (.handler handler params), ?_, rest⟩
      rintro call ⟨⟩
      exact ⟨handler, params, bound, rfl⟩

end Beside

section Search

variable {handle : Handle} {request : Request} {scheme : String}
  {front back : List (Route Handler)} {route : Route Handler}

theorem Turn.unwatched {world now : WatchedWorld Handler Callback State}
    (turn : app.watched.Turn world handle request scheme front now) :
    app.Turn (world.mapApp Prod.fst) handle request scheme front (now.mapApp Prod.fst) := by
  have mirrored (routes : List (Route Handler)) (earlier : WatchedWorld Handler Callback State) :=
    app.watched_mirrors.attempt request routes earlier
  cases turn with
  | own first declined =>
      have tried := mirrored front world
      rw [declined] at tried
      exact .own first tried.symm
  | @global middle last follows own declined =>
      have tried := mirrored (world.registry.entry handle.scheme).routes world
      rw [own] at tried
      have others := mirrored front (middle.log (.fallingBack handle.scheme request.source))
      rw [declined] at others
      exact .global last follows tried.symm others.symm

theorem Alike.search {first last : WatchedWorld Handler Callback State →
      WatchedWorld Handler Callback State → Prop} {world twin : WatchedWorld Handler Callback State}
    (leaves : twin.fallsBack handle = world.fallsBack handle)
    (own : Alike first
      (app.watched.attempt (offers request (world.registry.routes handle.scheme)) world)
      (app.watched.attempt (offers request (twin.registry.routes handle.scheme)) twin))
    (ended : ∀ now apart, first now apart → last now apart)
    (global : world.fallsBack handle = true → ∀ now apart,
      app.watched.attempt (offers request (world.registry.routes handle.scheme)) world =
        (.returned false, now) → first now apart →
      Alike last
        (app.watched.attempt (offers request (now.registry.routes globalScheme))
          (now.log (.fallingBack handle.scheme request.source)))
        (app.watched.attempt (offers request (apart.registry.routes globalScheme))
          (apart.log (.fallingBack handle.scheme request.source)))) :
    Alike last (app.watched.search handle request world)
      (app.watched.search handle request twin) := by
  rw [search_eq_orElse, search_eq_orElse, leaves]
  refine own.orElse ended fun now apart declined together => ?_
  split
  · rename_i follows
    exact global follows now apart declined together
  · exact ⟨rfl, ended now apart together⟩

/-- From two worlds with the same routes but for this one. -/
theorem search_beside {world twin : WatchedWorld Handler Callback State}
    (start : Parallel none table other world twin)
    (leaves : twin.fallsBack handle = world.fallsBack handle)
    (stored : world.registry.routes scheme = front ++ route :: back)
    (absent : twin.registry.routes scheme = front ++ back)
    (elsewhere : ∀ key, key ≠ scheme → twin.registry.routes key = world.registry.routes key)
    (aloof : ∀ other ∈ twin.reach handle, app.Aloof other)
    (vacant : app.VacantTurn (world.mapApp Prod.fst) handle request scheme front route) :
    Alike (Beside route table other) (app.watched.search handle request world)
      (app.watched.search handle request twin) := by
  have idle (params : Params) (now : WatchedWorld Handler Callback State)
      (matched : route.respond request = some params)
      (turn : app.watched.Turn world handle request scheme front now) :
      ∃ handler, route.handler = some handler ∧
        app.Vacant handler params ((now.logMatch route params).mapApp Prod.fst) :=
    vacant params _ matched turn.unwatched
  have own (key : Route Handler) (member : key ∈ twin.registry.routes handle.scheme) :
      app.Aloof key := aloof key (World.mem_reach.mpr (.inl member))
  have global (follows : world.fallsBack handle = true) (key : Route Handler)
      (member : key ∈ twin.registry.routes globalScheme) : app.Aloof key :=
    aloof key (World.mem_reach.mpr (.inr ⟨leaves.trans follows, member⟩))
  -- No table has changed by the time when the global routes are looked up.
  have kept {extra : Option (Call Handler Callback)}
      {now apart : WatchedWorld Handler Callback State}
      (parallel : Parallel extra table other now apart) (key : String) :
      now.registry.routes key = world.registry.routes key ∧
        apart.registry.routes key = twin.registry.routes key :=
    ⟨Registry.routes_congr (parallel.apart.table.trans start.apart.table.symm) key,
      Registry.routes_congr (parallel.apart.other.trans start.apart.other.symm) key⟩
  by_cases first : scheme = handle.scheme
  · subst first
    refine Alike.search leaves ?_ (fun _ _ => id) fun follows now apart _ together => ?_
    · rw [stored, absent]
      rw [absent] at own
      exact attempt_beside (fun key member => own key (List.mem_append_left _ member))
        (fun key member => own key (List.mem_append_right _ member)) start
        fun params now matched declined => idle params now matched (.own rfl declined)
    · obtain ⟨extra, mine, parallel⟩ := together
      obtain ⟨here, there⟩ := kept parallel globalScheme
      rw [here, there, ← elsewhere globalScheme (World.foreign_of_fallsBack follows).symm]
      obtain ⟨outcome, rest⟩ := attempt_parallel (global follows) _ _
        (parallel_journals parallel _ _)
      exact ⟨outcome, extra, mine, rest⟩
  · have same : world.registry.routes handle.scheme = twin.registry.routes handle.scheme :=
      (elsewhere handle.scheme (Ne.symm first)).symm
    refine Alike.search leaves ?_ (fun _ _ => beside_of_parallel)
      fun follows now apart declined parallel => ?_
    · rw [same]
      exact attempt_parallel own world twin start
    obtain ⟨here, there⟩ := kept parallel globalScheme
    have logged := parallel_journals parallel
      (now.log (.fallingBack handle.scheme request.source)).journal
      (apart.log (.fallingBack handle.scheme request.source)).journal
    rw [here, there]
    by_cases last : scheme = globalScheme
    · rw [← last, stored, absent]
      rw [← last, absent] at global
      exact attempt_beside (fun key member => global follows key (List.mem_append_left _ member))
        (fun key member => global follows key (List.mem_append_right _ member)) logged
        fun params now matched turn => idle params now matched (.global last follows declined turn)
    · rw [← elsewhere globalScheme (Ne.symm last)]
      exact (attempt_parallel (global follows) _ _ logged).imp_right beside_of_parallel

end Search

section Conclusion

variable {handle : Handle} {request : Request} {entry twinEntry : Entry Handler Callback}

theorem conclude_parallel (same : twinEntry.unmatched = entry.unmatched) (handled : Bool)
    {now apart : WatchedWorld Handler Callback State}
    (together : Parallel extra table other now apart) :
    let result := app.watched.conclude handle entry request handled now
    let reply := app.watched.conclude handle twinEntry request handled apart
    Spliced extra result.2.calls reply.2.calls ∧
      (result.1 = .returned true ↔ reply.1 = .returned true) ∧
      ((∀ callback, .unmatched callback handle request.source request.additional ∈ reply.2.calls →
          (app.unmatched callback handle request.source request.additional).Aloof) →
        Alike (Parallel extra table other) result reply) := by
  intro result reply
  refine ⟨?_, ?_, fun aloof => ?_⟩
  · rw [calls_conclude, calls_conclude, same]
    exact together.calls.append _
  · rw [conclude_accepts_iff, conclude_accepts_iff]
  · have noted : reply.2.calls = _ := app.calls_conclude handle twinEntry request handled apart
    have told := parallel_journals together (now.logUnhandled handle request).journal
      (apart.logUnhandled handle request).journal
    cases handled with
    | true => exact ⟨rfl, parallel_journals together _ _⟩
    | false =>
        cases heard : entry.unmatched with
        | none =>
            have silent := same.trans heard
            have ended : result = _ := app.watched.conclude_of_none handle request heard now
            have alike : reply = _ := app.watched.conclude_of_none handle request silent apart
            rw [ended, alike]
            exact ⟨rfl, told⟩
        | some callback =>
            have listening := same.trans heard
            have ended : result = _ := app.watched.conclude_of_some handle request heard now
            have alike : reply = _ := app.watched.conclude_of_some handle request listening apart
            have called : Call.unmatched callback handle request.source request.additional ∈
                reply.2.calls := by
              simp [noted, listening]
            rw [ended, alike]
            exact Action.Paired.bind (watch_parallel (aloof callback called) _)
              (fun _ => .pure false) _ _ told

theorem dispatch_beside {world twin : WatchedWorld Handler Callback State} {route : Route Handler}
    (same : (twin.registry.entry handle.scheme).unmatched =
      (world.registry.entry handle.scheme).unmatched)
    (searched : Alike (Beside route table other) (app.watched.search handle request world)
      (app.watched.search handle request twin)) :
    let result := app.watched.dispatch handle (world.registry.entry handle.scheme) request world
    let reply := app.watched.dispatch handle (twin.registry.entry handle.scheme) request twin
    ∃ extra, Asks route extra ∧ Spliced extra result.2.calls reply.2.calls ∧
      (result.1 = .returned true ↔ reply.1 = .returned true) ∧
      ((∀ callback, .unmatched callback handle request.source request.additional ∈ reply.2.calls →
          (app.unmatched callback handle request.source request.additional).Aloof) →
        Alike (Parallel extra table other) result reply) := by
  rw [dispatch_eq_conclude, dispatch_eq_conclude]
  generalize app.watched.search handle request world = tried at searched
  generalize app.watched.search handle request twin = also at searched
  obtain ⟨verdict, now⟩ := tried
  obtain ⟨answer, apart⟩ := also
  obtain ⟨rfl, extra, asks, together⟩ := searched
  refine ⟨extra, asks, ?_⟩
  cases verdict with
  | returned handled => exact conclude_parallel same handled together
  | halted cause => exact ⟨together.calls, .rfl, fun _ => ⟨rfl, together⟩⟩

end Conclusion

theorem route_beside [Url.Names] {world : World Handler Callback State} {handle : Handle}
    {source : String} {given : Params} {scheme : String} {front back : List (Route Handler)}
    {route : Route Handler}
    (stored : world.registry.routes scheme = front ++ route :: back)
    (aloof : ∀ other ∈ (world.withRoutes scheme (front ++ back)).reach handle, app.Aloof other)
    (vacant : ∀ url, Url.parse source = .ok url →
      app.VacantTurn world handle (world.request source url given) scheme front route) :
    let without := world.withRoutes scheme (front ++ back)
    let result := app.watched.route handle source given (world.mapApp (·, []))
    let reply := app.watched.route handle source given (without.mapApp (·, []))
    ∃ extra, Asks route extra ∧ Spliced extra result.2.calls reply.2.calls ∧
      (result.1 = .returned true ↔ reply.1 = .returned true) ∧
      ((∀ callback, .unmatched callback handle source given ∈ reply.2.calls →
          (app.unmatched callback handle source given).Aloof) →
        Alike (Parallel extra world.registry.table without.registry.table) result reply) := by
  intro without result reply
  have start : Parallel none world.registry.table without.registry.table
      (world.mapApp (·, ([] : List (Call Handler Callback)))) (without.mapApp (·, [])) :=
    ⟨⟨rfl, rfl, rfl, rfl⟩, .refl []⟩
  cases parsed : Url.parse source with
  | error error =>
      have refused : result = _ := app.watched.route_of_error parsed _
      have same : reply = _ := app.watched.route_of_error parsed _
      rw [refused, same]
      exact ⟨none, nofun, .refl [], .rfl, fun _ => ⟨rfl, parallel_journals start _ _⟩⟩
  | ok url =>
      have routed : result = _ := app.watched.route_of_ok parsed _
      have same : reply = _ := app.watched.route_of_ok parsed _
      rw [routed, same]
      refine dispatch_beside World.unmatched_withRoutes ?_
      refine search_beside start World.fallsBack_withRoutes stored ?_ ?_ aloof (vacant url parsed)
      · exact World.routes_withRoutes.trans (if_pos rfl)
      · exact fun key foreign => World.routes_withRoutes.trans (if_neg foreign)

end Application

theorem Trial.forwarded {app : Application Handler Callback State} (trial : Trial app)
    {handler : Handler} (bound : trial.route.handler = some handler) {Target : Type}
    {find : World Handler Callback State → Option Target}
    {forward : Target → Params → Action (World Handler Callback State) Bool}
    (forwards : app.handle handler = World.forwarding find forward) :
    match find trial.before with
    | some target => forward target trial.params trial.before = (trial.outcome, trial.after)
    | none => trial.outcome = .returned false ∧ trial.before.Told trial.after := by
  have genuine := trial.genuine
  simp only [Application.Ran, bound] at genuine
  rw [forwards, Application.forwarding_apply] at genuine
  cases found : find trial.before with
  | some target =>
      rw [found] at genuine
      exact genuine
  | none =>
      rw [found, Prod.mk.injEq] at genuine
      obtain ⟨declined, logged⟩ := genuine
      exact ⟨declined.symm, logged ▸ (World.Told.refl trial.before).signal _⟩

namespace World

variable {world later : World Handler Callback State} {scheme : String} {route : Route Handler}

theorem has_withRoutes {routes : List (Route Handler)}
    (stored : route ∈ world.registry.routes scheme) (key : String) :
    (world.withRoutes scheme routes).registry.has key = world.registry.has key := by
  refine Bool.eq_iff_iff.mpr (Registry.has_update.trans (or_iff_right_of_imp ?_))
  intro same
  rw [same]
  exact Registry.has_of_mem_routes stored

theorem canRoute_of_mem_reach [Url.Names] {handle : Handle} {source : String} {asked : Params}
    {url : Url} (kept : later.registry.table = world.registry.table)
    (parsed : Url.parse source = .ok url)
    (member : route ∈ world.reach handle)
    (matched : (route.respond (later.request source url asked)).isSome) :
    (later.canRoute handle source asked).1 = true := by
  have reach : later.reach handle = world.reach handle := by
    unfold reach fallsBack fallback Registry.routes Registry.entry
    rw [kept]
  obtain ⟨params, answer⟩ := Option.isSome_iff_exists.mp matched
  have offered : (route, params) ∈ offers (later.request source url asked) (world.reach handle) :=
    List.mem_filterMap.mpr ⟨route, member, by rw [answer]; rfl⟩
  rw [canRoute_of_ok parsed, reach, List.isEmpty_eq_false_iff.mpr (List.ne_nil_of_mem offered)]
  rfl

end World

/-- Where a route is not served, since its target is gone or cannot be built, a dispatch comes to
what it comes to without the route.  All other calls are the same, in the same order. -/
theorem vacant_as_absent [Url.Names] (app : Application Handler Callback State)
    (world : World Handler Callback State) (handle : Handle) (source : String) (given : Params)
    (scheme : String) (front back : List (Route Handler)) (route : Route Handler)
    (stored : world.registry.routes scheme = front ++ route :: back)
    (aloof : ∀ other ∈ (world.withRoutes scheme (front ++ back)).reach handle, app.Aloof other)
    (vacant : ∀ url, Url.parse source = .ok url →
      app.VacantTurn world handle (world.request source url given) scheme front route) :
    let without := world.withRoutes scheme (front ++ back)
    let result := app.route handle source given world
    let other := app.route handle source given without
    let calls := (app.watched.route handle source given (world.mapApp (·, []))).2.calls
    let others := (app.watched.route handle source given (without.mapApp (·, []))).2.calls
    (∃ extra, Asks route extra ∧ Spliced extra calls others) ∧
      (result.1 = .returned true ↔ other.1 = .returned true) ∧
      ((∀ callback, Call.unmatched callback handle source given ∈ others →
          (app.unmatched callback handle source given).Aloof) →
        result.1 = other.1 ∧
          World.Apart world.registry.table without.registry.table result.2 other.2) ∧
      without.registry.handleFor source = world.registry.handleFor source ∧
      (∀ later : World Handler Callback State, later.registry.table = world.registry.table →
        ∀ url asked, Url.parse source = .ok url → route ∈ world.reach handle →
          (route.respond (later.request source url asked)).isSome →
          (later.canRoute handle source asked).1 = true) ∧
      ∀ (trial : Trial app) handler, trial.route.handler = some handler →
        ∀ {Target : Type} (find : World Handler Callback State → Option Target) forward,
          app.handle handler = World.forwarding find forward →
          match find trial.before with
          | some target => forward target trial.params trial.before = (trial.outcome, trial.after)
          | none => trial.outcome = .returned false ∧ trial.before.Told trial.after := by
  intro without result other calls others
  obtain ⟨extra, asks, spliced, accepted, alike⟩ := app.route_beside stored aloof vacant
  have shown := app.watched_mirrors.paired.route (World.respected_shows Prod.fst) handle
    (Eq.refl source) (Eq.refl given)
  obtain ⟨ended, after⟩ := shown (world.mapApp (·, [])) world rfl
  obtain ⟨also, afterwards⟩ := shown (without.mapApp (·, [])) without rfl
  refine ⟨⟨extra, asks, spliced⟩, ?_, fun callbacks => ?_, ?_, ?_, ?_⟩
  · rwa [ended, also] at accepted
  · obtain ⟨same, parallel⟩ := alike callbacks
    have apart := parallel.apart
    rw [after, afterwards] at apart
    exact ⟨ended.symm.trans (same.trans also), apart⟩
  · have member : route ∈ world.registry.routes scheme := by
      rw [stored]
      exact List.mem_append_right _ List.mem_cons_self
    simp only [Registry.handleFor, World.has_withRoutes member, without]
  · exact fun later kept url asked => World.canRoute_of_mem_reach kept
  · exact fun trial handler bound _ find forward => trial.forwarded bound

/-- One handler drops the target of the other and changes how plus signs are read.  The state tells
whether the target is still there. -/
def dropping : Application Bool Unit Bool where
  handle drops params :=
    match drops with
    | true => do
        Action.modify fun world => { world.setDecodePlus false with app := false }
        pure false
    | false =>
        World.forwarding (fun world => if world.app then some () else none)
          (fun _ _ => pure true) params
  unmatched _ _ _ _ := pure ()

/-- A target that is there when the dispatch begins, but no longer when its route is asked. -/
def droppedInTime : World Bool Unit Bool :=
  let own : Handle := ⟨"app"⟩
  let fresh : World Bool Unit Bool := .fresh {} true
  let world := (fresh.addRoute own ⟨"", "/a", 1, [.ofString "/a"], some true⟩).2
  let world := (world.addRoute own ⟨"", "/:x", 0, [.ofString "/:x"], some false⟩).2
  let world := (world.addRoute .global ⟨"", "/a", 0, [.ofString "/a"], none⟩).2
  world.setFallback own true

theorem droppedInTime_as_absent :
    let first : Route Bool := ⟨"app", "/a", 1, [.ofString "/a"], some true⟩
    let without := droppedInTime.withRoutes "app" [first]
    droppedInTime.app = true ∧
      (dropping.route ⟨"app"⟩ "app:/a" .empty droppedInTime).1 = .returned true ∧
      (dropping.route ⟨"app"⟩ "app:/a" .empty without).1 = .returned true := by
  intro first without
  let weak : Route Bool := ⟨"app", "/:x", 0, [.ofString "/:x"], some false⟩
  have stored : droppedInTime.registry.routes "app" = [first] ++ weak :: [] := rfl
  have blind (drops : Bool) (params : Params) : (dropping.handle drops params).Aloof := by
    intro table other world twin apart
    cases drops with
    | true =>
        have options := congrArg (fun options => { options with decodePlus := false }) apart.options
        exact ⟨rfl, apart.table, apart.other, options, rfl⟩
    | false =>
        simp only [dropping, Application.forwarding_apply, apart.app]
        split
        · exact ⟨rfl, apart⟩
        · exact ⟨rfl, apart.table, apart.other, apart.options, apart.app⟩
  have read : (Url.parse "app:/a").toOption = some ⟨"app", none, ['/', 'a'], none, none⟩ := by
    decide
  have vacant (url : Url) (parsed : Url.parse "app:/a" = .ok url) : dropping.VacantTurn
      droppedInTime ⟨"app"⟩ (droppedInTime.request "app:/a" url .empty) "app" [first] weak := by
    rw [parsed] at read
    cases read
    intro params now matched turn
    cases turn with
    | own _ declined =>
        have gone : (dropping.attempt
            (offers (droppedInTime.request "app:/a" ⟨"app", none, ['/', 'a'], none, none⟩ .empty)
              [first]) droppedInTime).2.app = false := by
          decide
        rw [declined] at gone
        refine ⟨false, rfl, .dropped _ _ rfl (if_neg ?_)⟩
        rw [Bool.not_eq_true]
        exact gone
    | global last => exact absurd last (by decide)
  have alike := vacant_as_absent dropping droppedInTime ⟨"app"⟩ "app:/a" .empty "app" [first] []
    weak stored (fun _ _ drops params _ => blind drops params) vacant
  have served : (dropping.route ⟨"app"⟩ "app:/a" .empty without).1 = .returned true := by
    decide +kernel
  exact ⟨rfl, alike.2.1.mpr served, served⟩

end LinkRouting
