import LinkRouting.Proofs.Dispatch.Calls
import LinkRouting.Proofs.Pattern.Choice

namespace LinkRouting

/-! Asking whether a URL can be routed, against routing it.  The answer is whether there is an offer
at all, so it is what a dispatch would come to if every handler accepted, and no handler has to be
asked for it.
-/

variable {Handler Callback State : Type}

theorem anyMatches_eq (routes : List (Route Handler)) (request : Request) :
    World.anyMatches routes request = !(offers request routes).isEmpty := by
  induction routes with
  | nil => rfl
  | cons route rest ih =>
      unfold World.anyMatches at ih ⊢
      cases matched : route.respond request with
      | none => rw [List.any_cons, matched, offers_cons_of_none matched, ih]; rfl
      | some params => rw [List.any_cons, matched, offers_cons_of_some matched]; rfl

namespace World

variable {world : World Handler Callback State} {handle : Handle} {source : String}
  {params : Params}

theorem canRoute_of_error [Url.Names] {error : UrlError}
    (refused : Url.parse source = .error error) :
    world.canRoute handle source params =
      (false, world.log (.unparseableUrl handle.scheme source error)) := by
  simp only [canRoute, refused]

theorem canRoute_of_ok [Url.Names] {url : Url} (parsed : Url.parse source = .ok url) :
    (world.canRoute handle source params).1 =
      !(offers (world.request source url params) (world.reach handle)).isEmpty := by
  rw [← anyMatches_eq, reach]
  simp only [canRoute, parsed]
  change _ = anyMatches (world.routes handle ++ _) _
  unfold anyMatches
  rw [List.any_append]
  cases (world.routes handle).any fun route =>
      (route.respond (world.request source url params)).isSome with
  | true => rfl
  | false => cases world.fallsBack handle <;> rfl

theorem anyMatches_request (routes : List (Route Handler)) (url : Url) (params other : Params) :
    anyMatches routes (world.request source url params) =
      anyMatches routes (world.request source url other) := by
  simp only [anyMatches, Route.isSome_respond]
  rfl

/-- What the caller adds makes no difference. -/
theorem canRoute_params [Url.Names] (params other : Params) :
    world.canRoute handle source params = world.canRoute handle source other := by
  unfold canRoute
  split
  · rfl
  · simp only [anyMatches_request _ _ params other]

/-- Asking changes nothing.  Events are logged, but nothing is measured. -/
theorem canRoute_snd [Url.Names] (world : World Handler Callback State) (handle : Handle)
    (source : String) (params : Params) : ∃ events : List Log.Event,
      (world.canRoute handle source params).2 =
        { world with journal := events.map .logged ++ world.journal } := by
  unfold canRoute
  split
  · exact ⟨[_], rfl⟩
  · dsimp only
    split
    · exact ⟨[], rfl⟩
    · split
      · exact ⟨[_], rfl⟩
      · exact ⟨[], rfl⟩

end World

namespace Application

/-- Every one of these offers would be accepted, whenever it is made. -/
def Willing (app : Application Handler Callback State)
    (offered : List (Route Handler × Params)) : Prop :=
  ∀ offer ∈ offered, ∀ world, (app.accept offer.1 offer.2 world).1 = .returned true

variable {app : Application Handler Callback State} {handle : Handle} {request : Request}
  {world : World Handler Callback State}

theorem willing_of_handle (accepts : ∀ handler params world,
    (app.handle handler params world).1 = .returned true)
    (offered : List (Route Handler × Params)) : app.Willing offered := by
  rintro ⟨⟨scheme, pattern, priority, candidates, handler⟩, params⟩ _ world
  cases handler with
  | none => rfl
  | some handler => exact accepts handler params world

theorem attempt_of_willing {offered : List (Route Handler × Params)}
    (willing : app.Willing offered) :
    (app.attempt offered world).1 = .returned !offered.isEmpty := by
  cases offered with
  | nil => rfl
  | cons offer rest =>
      obtain ⟨route, params⟩ := offer
      have accepted := willing _ List.mem_cons_self (world.logMatch route params)
      rw [attempt_cons]
      split
      · rfl
      · rename_i ended
        rw [ended] at accepted
        cases accepted
      · rename_i ended
        rw [ended] at accepted
        cases accepted

/-- What a dispatch has come to before its conclusion. -/
def search (app : Application Handler Callback State) (handle : Handle) (request : Request)
    (world : World Handler Callback State) : Outcome Bool × World Handler Callback State :=
  let entry := world.registry.entry handle.scheme
  (app.walk request entry.routes >>= app.resort handle entry request) world

theorem search_of_offers
    (some : offers request (world.registry.entry handle.scheme).routes ≠ [])
    (willing : app.Willing (offers request (world.registry.entry handle.scheme).routes)) :
    (app.search handle request world).1 = .returned true := by
  have accepted : (app.attempt (offers request (world.registry.entry handle.scheme).routes)
      world).1 = .returned true := by
    rw [attempt_of_willing willing, List.isEmpty_eq_false_iff.mpr some]
    rfl
  rw [search, walk_resort_apply _ _ _ _ (Prod.ext accepted rfl), if_neg (by simp)]

theorem search_eq_orElse : app.search handle request world =
    (app.attempt (offers request (world.registry.entry handle.scheme).routes)).orElse
      (fun middle =>
        if world.fallsBack handle then
          app.attempt (offers request (middle.registry.routes globalScheme))
            (middle.log (.fallingBack handle.scheme request.source))
        else (.returned false, middle)) world := by
  have leave : ((world.registry.entry handle.scheme).fallback && !handle.isGlobal) =
      world.fallsBack handle := rfl
  unfold Action.orElse
  cases walked : app.attempt (offers request (world.registry.entry handle.scheme).routes) world with
  | mk verdict middle =>
      rw [search, walk_resort_apply _ _ _ _ walked, leave]
      cases verdict with
      | halted cause => simp
      | returned accepted =>
          cases accepted with
          | true => simp
          | false => simp

/-- Without an offer of the scheme no handler has run when the global routes are looked up. -/
theorem search_of_none
    (nothing : offers request (world.registry.entry handle.scheme).routes = []) :
    app.search handle request world =
      if world.fallsBack handle then
        app.attempt (offers request (world.registry.routes globalScheme))
          (world.log (.fallingBack handle.scheme request.source))
      else (.returned false, world) := by
  rw [search_eq_orElse, nothing]
  rfl

theorem offers_of_search (accepted : (app.search handle request world).1 = .returned true) :
    offers request (world.reach handle) ≠ [] := by
  rw [World.reach, offers_append, Ne, List.append_eq_nil_iff]
  rintro ⟨nothing, others⟩
  rw [search_of_none nothing] at accepted
  by_cases follows : world.fallsBack handle = true
  · rw [if_pos follows] at others accepted
    rw [others] at accepted
    cases accepted
  · rw [if_neg follows] at accepted
    cases accepted

theorem search_of_willing (willing : app.Willing (offers request (world.reach handle))) :
    (app.search handle request world).1 =
      .returned !(offers request (world.reach handle)).isEmpty := by
  rw [World.reach, offers_append] at willing ⊢
  by_cases nothing : offers request (world.registry.entry handle.scheme).routes = []
  · rw [search_of_none nothing]
    rw [nothing, List.nil_append] at willing ⊢
    by_cases follows : world.fallsBack handle = true
    · rw [if_pos follows] at willing
      rw [if_pos follows, if_pos follows]
      exact attempt_of_willing willing
    · rw [if_neg follows, if_neg follows]
      rfl
  · rw [search_of_offers nothing fun offer member => willing offer (List.mem_append_left _ member)]
    simp [nothing]

theorem dispatch_eq_conclude : app.dispatch handle (world.registry.entry handle.scheme) request
    world = match app.search handle request world with
      | (.returned handled, later) =>
          app.conclude handle (world.registry.entry handle.scheme) request handled later
      | (.halted cause, later) => (.halted cause, later) := by
  rw [dispatch_eq_phases, Action.bind_apply, ← search]
  rcases app.search handle request world with ⟨_ | _, later⟩ <;> rfl

theorem dispatch_accepts_iff :
    (app.dispatch handle (world.registry.entry handle.scheme) request world).1 = .returned true ↔
      (app.search handle request world).1 = .returned true := by
  rw [dispatch_eq_conclude]
  split
  · rename_i handled later ended
    rw [ended, conclude_accepts_iff]
    simp
  · rename_i ended
    simp [ended]

theorem dispatch_of_willing (willing : app.Willing (offers request (world.reach handle)))
    (returns : ∀ callback earlier, (app.unmatched callback handle request.source
      request.additional earlier).1 = .returned ()) :
    (app.dispatch handle (world.registry.entry handle.scheme) request world).1 =
      .returned !(offers request (world.reach handle)).isEmpty := by
  have decided : (app.search handle request world).1 =
      .returned !(offers request (world.reach handle)).isEmpty := search_of_willing willing
  rw [dispatch_eq_conclude]
  split
  · rename_i handled later ended
    rw [ended] at decided
    cases decided
    exact conclude_returns app handle _ request _ later returns
  · rename_i ended
    rw [ended] at decided
    cases decided

variable {source : String} {given : Params}

/-- What is accepted could have been routed. -/
theorem canRoute_of_route [Url.Names]
    (accepted : (app.route handle source given world).1 = .returned true)
    (asked : Params) : (world.canRoute handle source asked).1 = true := by
  cases parsed : Url.parse source with
  | error error =>
      rw [route_of_error _ parsed] at accepted
      cases accepted
  | ok url =>
      rw [route_of_ok _ parsed, dispatch_accepts_iff] at accepted
      rw [world.canRoute_params asked given, World.canRoute_of_ok parsed,
        List.isEmpty_eq_false_iff.mpr (offers_of_search accepted)]
      rfl

theorem route_of_willing [Url.Names] (willing : ∀ url, Url.parse source = .ok url →
      app.Willing (offers (world.request source url given) (world.reach handle)))
    (asked : Params) :
    ((app.route handle source given world).1 = .returned true ↔
      (world.canRoute handle source asked).1 = true) ∧
    ((∀ callback earlier,
        (app.unmatched callback handle source given earlier).1 = .returned ()) →
      (app.route handle source given world).1 =
        .returned (world.canRoute handle source asked).1) := by
  cases parsed : Url.parse source with
  | error error =>
      rw [route_of_error _ parsed, World.canRoute_of_error parsed]
      exact ⟨by simp, fun _ => rfl⟩
  | ok url =>
      have offered := willing url parsed
      rw [route_of_ok _ parsed, world.canRoute_params asked given, World.canRoute_of_ok parsed]
      refine ⟨?_, dispatch_of_willing offered⟩
      rw [dispatch_accepts_iff, search_of_willing offered, Outcome.returned.injEq]

end Application

/-- The query is the dispatch with nothing but willing handlers.  What a dispatch accepts is always
found routable, whatever its handlers do, and unless a handler that is asked declines, both
come to the same.  The parameters of the caller do not matter, and nothing changes but the log. -/
theorem canRoute_iff_route [Url.Names] {accepting : Application Handler Callback State}
    (willing : ∀ handler params world,
      (accepting.handle handler params world).1 = .returned true)
    (app : Application Handler Callback State) (handle : Handle) (source : String)
    (asked given : Params) (world : World Handler Callback State) :
    let can := world.canRoute handle source asked
    (can.1 = true ↔ (accepting.route handle source given world).1 = .returned true) ∧
      ((app.route handle source given world).1 = .returned true → can.1 = true) ∧
      ((∀ url, Url.parse source = .ok url →
          app.Willing (offers (world.request source url given) (world.reach handle))) →
        ((app.route handle source given world).1 = .returned true ↔ can.1 = true) ∧
        ((∀ callback earlier,
            (app.unmatched callback handle source given earlier).1 = .returned ()) →
          (app.route handle source given world).1 = .returned can.1)) ∧
      world.canRoute handle source given = can ∧
      ∃ events : List Log.Event, can.2 =
        { world with journal := events.map .logged ++ world.journal } := by
  intro can
  have accepted := Application.route_of_willing
    (fun url _ => Application.willing_of_handle willing
      (offers (world.request source url given) (world.reach handle))) asked
  refine ⟨accepted.1.symm, fun routed => Application.canRoute_of_route routed asked,
    fun offered => Application.route_of_willing offered asked, world.canRoute_params given asked,
    world.canRoute_snd handle source asked⟩

theorem canRoute_declinedOnce :
    let accepting : Application Bool Unit Unit := ⟨fun _ _ => pure true, fun _ _ _ _ => pure ()⟩
    (declinedOnce.canRoute ⟨"app"⟩ "app:/a" .empty).1 = true ∧
      (accepting.route ⟨"app"⟩ "app:/a" (.ofList [("x", .text "b")]) declinedOnce).1 =
        .returned true ∧
      declinedOnce.canRoute ⟨"app"⟩ "app:/a" (.ofList [("x", .text "b")]) =
        declinedOnce.canRoute ⟨"app"⟩ "app:/a" .empty := by
  intro accepting
  have willing : ∀ handler params world,
      (accepting.handle handler params world).1 = .returned true := fun _ _ _ => rfl
  obtain ⟨same, _, _, params, _⟩ := canRoute_iff_route willing accepting ⟨"app"⟩ "app:/a" .empty
    (.ofList [("x", .text "b")]) declinedOnce
  have found : (declinedOnce.canRoute ⟨"app"⟩ "app:/a" .empty).1 = true := by decide
  exact ⟨found, same.mp found, params⟩

end LinkRouting
