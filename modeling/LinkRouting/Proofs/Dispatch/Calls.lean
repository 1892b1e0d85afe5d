import LinkRouting.Proofs.Dispatch.Mirror

namespace LinkRouting

/-- The items up to and including the first that is wanted, or all of them. -/
def upTo (wanted : α → Bool) : List α → List α
  | [] => []
  | a :: rest => if wanted a then [a] else a :: upTo wanted rest

section UpTo

variable {wanted : α → Bool} {first : List α}

theorem upTo_singleton (a : α) : upTo wanted [a] = [a] := by
  unfold upTo
  split <;> rfl

theorem upTo_of_not_any (none : first.any wanted = false) : upTo wanted first = first := by
  induction first with
  | nil => rfl
  | cons a rest ih =>
      rw [List.any_cons, Bool.or_eq_false_iff] at none
      simp only [upTo, none.1, ih none.2, Bool.false_eq_true, if_false]

theorem upTo_append_of_any (found : first.any wanted = true) (second : List α) :
    upTo wanted (first ++ second) = upTo wanted first := by
  induction first with
  | nil => cases found
  | cons a rest ih =>
      simp only [List.cons_append, upTo]
      cases here : wanted a with
      | true => rfl
      | false =>
          rw [List.any_cons, here, Bool.false_or] at found
          simp only [ih found]

theorem upTo_append_of_not_any (none : first.any wanted = false) (second : List α) :
    upTo wanted (first ++ second) = first ++ upTo wanted second := by
  induction first with
  | nil => rfl
  | cons a rest ih =>
      rw [List.any_cons, Bool.or_eq_false_iff] at none
      simp only [List.cons_append, upTo, none.1, ih none.2, Bool.false_eq_true, if_false]

end UpTo

variable {Handler Callback State α : Type}

inductive Call (Handler Callback : Type) where
  | handler (handler : Handler) (params : Params)
  | unmatched (callback : Callback) (handle : Handle) (source : String) (params : Params)
deriving DecidableEq

/-- A world with the calls made so far, the earliest first. -/
abbrev WatchedWorld (Handler Callback State : Type) :=
  World Handler Callback (State × List (Call Handler Callback))

def World.calls (world : WatchedWorld Handler Callback State) :
    List (Call Handler Callback) :=
  world.app.2

/-- The routes that a dispatch tries one after the other as long as none accepts. -/
def World.reach (world : World Handler Callback State) (handle : Handle) : List (Route Handler) :=
  (world.registry.entry handle.scheme).routes ++
    if world.fallsBack handle then world.registry.routes globalScheme else []

namespace Application

/-- Makes a call and notes it. -/
def watch (call : Call Handler Callback) (action : Action (World Handler Callback State) α) :
    Action (WatchedWorld Handler Callback State) α :=
  fun world =>
    (action (world.mapApp Prod.fst)).map id (World.mapApp fun own => (own, world.calls ++ [call]))

def watched (app : Application Handler Callback State) :
    Application Handler Callback (State × List (Call Handler Callback)) where
  handle handler params := watch (.handler handler params) (app.handle handler params)
  unmatched callback handle source params :=
    watch (.unmatched callback handle source params) (app.unmatched callback handle source params)

theorem watched_mirrors (app : Application Handler Callback State) :
    app.watched.Mirrors Prod.fst app :=
  ⟨fun _ _ _ => rfl, fun _ _ _ _ _ => rfl⟩

/-- Handlers answer by `answers` and leave the registry as it is. -/
structure Quiet (app : Application Handler Callback State)
    (answers : Handler → Params → Bool) : Prop where
  answered : ∀ handler params world,
    (app.handle handler params world).1 = .returned (answers handler params)
  kept : ∀ handler params world, (app.handle handler params world).2.registry = world.registry

end Application

/-- Whether an offer is accepted.  A route without a handler accepts. -/
def accepts (answers : Handler → Params → Bool) (offer : Route Handler × Params) : Bool :=
  offer.1.handler.all fun handler => answers handler offer.2

/-- The call by which a route with a handler is asked. -/
def Call.ofOffer? (offer : Route Handler × Params) : Option (Call Handler Callback) :=
  offer.1.handler.map fun handler => .handler handler offer.2

/-- From `world` on, offers were made until one was accepted, and nothing else happened. -/
structure Offered (answers : Handler → Params → Bool) (offered : List (Route Handler × Params))
    (world : WatchedWorld Handler Callback State)
    (ended : Outcome Bool × WatchedWorld Handler Callback State) : Prop where
  outcome : ended.1 = .returned (offered.any (accepts answers))
  registry : ended.2.registry = world.registry
  calls : ended.2.calls = world.calls ++ (upTo (accepts answers) offered).filterMap Call.ofOffer?

namespace Offered

variable {answers : Handler → Params → Bool} {first second : List (Route Handler × Params)}
  {world middle : WatchedWorld Handler Callback State}
  {ended last : Outcome Bool × WatchedWorld Handler Callback State}

theorem append_accepted (offered : Offered answers first world ended)
    (accepted : first.any (accepts answers) = true) :
    Offered answers (first ++ second) world ended where
  outcome := by rw [offered.outcome, List.any_append, accepted, Bool.true_or]
  registry := offered.registry
  calls := by rw [offered.calls, upTo_append_of_any accepted]

theorem append_declined (offered : Offered answers first world ended)
    (declined : first.any (accepts answers) = false)
    (registry : middle.registry = ended.2.registry) (calls : middle.calls = ended.2.calls)
    (others : Offered answers second middle last) :
    Offered answers (first ++ second) world last where
  outcome := by rw [others.outcome, List.any_append, declined, Bool.false_or]
  registry := by rw [others.registry, registry, offered.registry]
  calls := by
    rw [others.calls, calls, offered.calls, upTo_of_not_any declined,
      upTo_append_of_not_any declined, List.filterMap_append, List.append_assoc]

end Offered

namespace Application

section Conclude

variable (app : Application Handler Callback State) (handle : Handle)
  (entry : Entry Handler Callback) (request : Request) (handled : Bool)

/-- The conclusion calls at most the callback, and that for what was not accepted. -/
theorem calls_conclude (world : WatchedWorld Handler Callback State) :
    (app.watched.conclude handle entry request handled world).2.calls = world.calls ++
      if handled then [] else entry.unmatched.toList.map fun callback =>
        .unmatched callback handle request.source request.additional := by
  cases handled with
  | true => exact (List.append_nil _).symm
  | false =>
      cases heard : entry.unmatched with
      | none =>
          rw [conclude_of_none _ _ _ heard]
          exact (List.append_nil _).symm
      | some callback =>
          rw [conclude_of_some _ _ _ heard, Action.bind_apply]
          have noted : (app.watched.unmatched callback handle request.source request.additional
              (world.logUnhandled handle request)).2.calls = world.calls ++
                [.unmatched callback handle request.source request.additional] := rfl
          split
          · rename_i ended
            rwa [ended] at noted
          · rename_i ended
            rwa [ended] at noted

theorem conclude_accepts_iff (world : World Handler Callback State) :
    (app.conclude handle entry request handled world).1 = .returned true ↔ handled = true := by
  cases handled with
  | true => simp [conclude_true]
  | false =>
      cases heard : entry.unmatched with
      | none => simp [conclude_of_none _ _ _ heard]
      | some callback =>
          rw [conclude_of_some _ _ _ heard, Action.bind_apply]
          split <;> simp [Action.pure_apply]

theorem conclude_returns (world : World Handler Callback State)
    (returns : ∀ callback earlier, (app.unmatched callback handle request.source
      request.additional earlier).1 = .returned ()) :
    (app.conclude handle entry request handled world).1 = .returned handled := by
  cases handled with
  | true => rfl
  | false =>
      cases heard : entry.unmatched with
      | none => rw [conclude_of_none _ _ _ heard]
      | some callback =>
          rw [conclude_of_some _ _ _ heard, Action.bind_apply]
          have returned := returns callback (world.logUnhandled handle request)
          split
          · rfl
          · rename_i ended
            rw [ended] at returned
            cases returned

end Conclude

variable {app : Application Handler Callback State} {answers : Handler → Params → Bool}
  (quiet : app.Quiet answers)

include quiet

namespace Quiet

theorem accept (route : Route Handler) (params : Params)
    (world : WatchedWorld Handler Callback State) :
    Offered answers [(route, params)] world (app.watched.accept route params world) := by
  obtain ⟨scheme, pattern, priority, candidates, handler⟩ := route
  cases handler with
  | none => exact ⟨rfl, rfl, (List.append_nil _).symm⟩
  | some handler =>
      refine ⟨(quiet.answered handler params _).trans ?_, quiet.kept handler params _, ?_⟩
      · simp [accepts]
      · rw [upTo_singleton]
        rfl

theorem attempt (offered : List (Route Handler × Params))
    (world : WatchedWorld Handler Callback State) :
    Offered answers offered world (app.watched.attempt offered world) := by
  induction offered generalizing world with
  | nil => exact ⟨rfl, rfl, (List.append_nil _).symm⟩
  | cons offer rest ih =>
      obtain ⟨route, params⟩ := offer
      have asked := quiet.accept route params (world.logMatch route params)
      have first : Offered answers [(route, params)] world
          (app.watched.accept route params (world.logMatch route params)) :=
        ⟨asked.outcome, asked.registry, asked.calls⟩
      rw [attempt_cons]
      cases ended : app.watched.accept route params (world.logMatch route params) with
      | mk outcome later =>
          rw [ended] at first
          have answer : outcome = .returned _ := first.outcome
          cases accepted : [(route, params)].any (accepts answers) with
          | true =>
              rw [accepted] at answer
              subst answer
              exact first.append_accepted accepted
          | false =>
              rw [accepted] at answer
              subst answer
              refine first.append_declined accepted ?_ ?_ (ih (later.logDecline route))
              · rfl
              · rfl

/-- The routes of the scheme and then, if they are to follow, the global ones, as one list. -/
theorem offered (handle : Handle) (request : Request)
    (world : WatchedWorld Handler Callback State) :
    let entry := world.registry.entry handle.scheme
    Offered answers (offers request (world.reach handle)) world
      ((app.watched.walk request entry.routes >>= app.watched.resort handle entry request)
        world) := by
  intro entry
  have own := quiet.attempt (offers request entry.routes) world
  have leave : (entry.fallback && !handle.isGlobal) = world.fallsBack handle := rfl
  cases walked : app.watched.attempt (offers request entry.routes) world with
  | mk verdict middle =>
      rw [walked] at own
      have registry : middle.registry = world.registry := own.registry
      have answer : verdict = .returned _ := own.outcome
      rw [World.reach, offers_append, walk_resort_apply _ _ _ _ walked, leave, registry]
      -- Handlers are quiet, so the global routes are still those of the beginning.
      by_cases follows : verdict = .returned false ∧ world.fallsBack handle = true
      · have declined : (offers request entry.routes).any (accepts answers) = false :=
          Outcome.returned.inj (answer.symm.trans follows.1)
        rw [if_pos follows, if_pos follows.2]
        refine own.append_declined declined ?_ ?_ (quiet.attempt _ _)
        · rfl
        · rfl
      · rw [if_neg follows]
        cases accepted : (offers request entry.routes).any (accepts answers) with
        | true => exact own.append_accepted accepted
        | false =>
            have stays : ¬world.fallsBack handle = true := by
              intro leaves
              exact follows ⟨answer.trans (congrArg _ accepted), leaves⟩
            have nothing : offers request ([] : List (Route Handler)) = [] := rfl
            rw [if_neg stays, nothing, List.append_nil]
            exact own

end Quiet

theorem Quiet.dispatch (handle : Handle) (request : Request)
    (world : World Handler Callback State) :
    let entry := world.registry.entry handle.scheme
    let result := app.dispatch handle entry request world
    let calls := (app.watched.dispatch handle entry request (world.mapApp (·, []))).2.calls
    let matching := offers request (world.reach handle)
    let accepted := matching.any (accepts answers)
    calls = (upTo (accepts answers) matching).filterMap Call.ofOffer? ++
      (if accepted then [] else entry.unmatched.toList.map fun callback =>
        .unmatched callback handle request.source request.additional) ∧
    (result.1 = .returned true ↔ accepted = true) ∧
    ((∀ callback earlier, (app.unmatched callback handle request.source
      request.additional earlier).1 = .returned ()) → result.1 = .returned accepted) := by
  intro entry result calls matching accepted
  let start : WatchedWorld Handler Callback State := world.mapApp (·, [])
  have same : result.1 = (app.watched.dispatch handle entry request start).1 :=
    (congrArg Prod.fst (app.watched_mirrors.dispatch handle entry request start)).symm
  have noted : calls = (app.watched.dispatch handle entry request start).2.calls := rfl
  have tried := quiet.offered handle request start
  rw [dispatch_eq_phases, Action.bind_apply] at same noted
  cases ended : (app.watched.walk request entry.routes >>=
      app.watched.resort handle entry request) start with
  | mk outcome later =>
      rw [ended] at same noted
      have offered : Offered answers matching start (outcome, later) := ended ▸ tried
      cases offered.outcome
      have before : later.calls = (upTo (accepts answers) matching).filterMap Call.ofOffer? :=
        offered.calls
      refine ⟨?_, ?_, fun returns => ?_⟩
      · rw [noted, calls_conclude, before]
      · rw [same, conclude_accepts_iff]
      · rw [same]
        exact conclude_returns app.watched handle entry request accepted later
          fun callback earlier => returns callback (earlier.mapApp Prod.fst)

end Application

/-- What one dispatch calls, and how it ends.  Of all matching routes, the ones asked are the
first until one accepts; if none does, the callback of the scheme follows. -/
theorem route_calls [Url.Names] {app : Application Handler Callback State}
    {answers : Handler → Params → Bool} (quiet : app.Quiet answers) (handle : Handle)
    (source : String) (params : Params) (world : World Handler Callback State) :
    let result := app.route handle source params world
    let calls := (app.watched.route handle source params (world.mapApp (·, []))).2.calls
    match Url.parse source with
    | .error _ => result.1 = .returned false ∧ calls = []
    | .ok url =>
        let matching := offers (world.request source url params) (world.reach handle)
        let accepted := matching.any (accepts answers)
        calls = (upTo (accepts answers) matching).filterMap Call.ofOffer? ++
          (if accepted then []
            else (world.registry.entry handle.scheme).unmatched.toList.map fun callback =>
              .unmatched callback handle source params) ∧
        (result.1 = .returned true ↔ accepted = true) ∧
        ((∀ callback earlier,
          (app.unmatched callback handle source params earlier).1 = .returned ()) →
          result.1 = .returned accepted) := by
  cases parsed : Url.parse source with
  | error error =>
      refine ⟨congrArg Prod.fst (app.route_of_error parsed world), ?_⟩
      exact congrArg (·.2.calls) (app.watched.route_of_error parsed _)
  | ok url =>
      rw [app.route_of_ok parsed, app.watched.route_of_ok parsed]
      exact quiet.dispatch handle (world.request source url params) world

/-- Two routes that match, one of the scheme and one global.  The handlers of this application
answer what they are. -/
def declinedOnce : World Bool Unit Unit :=
  let own : Handle := ⟨"app"⟩
  let fresh : World Bool Unit Unit := .fresh {} ()
  let world := (fresh.addRoute own ⟨"", "/a", 0, [.ofString "/a"], some false⟩).2
  let world := (world.addRoute .global ⟨"", "/:x", 0, [.ofString "/:x"], some true⟩).2
  (world.setFallback own true).setUnmatched own ()

theorem declinedOnce_calls :
    let app : Application Bool Unit Unit := ⟨fun handler _ => pure handler, fun _ _ _ _ => pure ()⟩
    app.Quiet (fun handler _ => handler) ∧
      (app.watched.route ⟨"app"⟩ "app:/a" .empty (declinedOnce.mapApp (·, []))).2.calls =
        [.handler false (.ofList [("route_pattern", .text "/a"), ("route_scheme", .text "app"),
          ("route_url", .text "app:/a")]),
         .handler true (.ofList [("route_pattern", .text "/:x"),
          ("route_scheme", .text "__global__"), ("route_url", .text "app:/a"),
          ("x", .text "a")])] := by
  intro app
  have quiet : app.Quiet (fun handler _ => handler) := ⟨fun _ _ _ => rfl, fun _ _ _ => rfl⟩
  refine ⟨quiet, ?_⟩
  have told := route_calls quiet ⟨"app"⟩ "app:/a" .empty declinedOnce
  have read : (Url.parse "app:/a").toOption =
      some ⟨"app", none, ['/', 'a'], none, none⟩ := by
    decide
  cases parsed : Url.parse "app:/a" with
  | error error =>
      rw [parsed] at read
      cases read
  | ok url =>
      rw [parsed] at read told
      cases read
      refine told.1.trans ?_
      decide

end LinkRouting
