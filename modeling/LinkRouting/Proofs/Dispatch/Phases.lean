import LinkRouting.Router.Dispatch

namespace LinkRouting

/-! A dispatch has three phases: the routes of the scheme, then perhaps the global ones, and the
conclusion.  Which routes match is settled by the request alone, so each walk comes down to
attempts at the offers that they make.
-/

variable {Handler Callback State : Type}

/-- The routes that match a request, each with what it has for its handler. -/
def offers (request : Request) (routes : List (Route Handler)) : List (Route Handler × Params) :=
  routes.filterMap fun route => (route.respond request).map (route, ·)

section Offers

variable {request : Request} {route : Route Handler} {params : Params}
  {rest : List (Route Handler)}

theorem offers_cons_of_none (passed : route.respond request = none) :
    offers request (route :: rest) = offers request rest := by
  simp [offers, passed]

theorem offers_cons_of_some (matched : route.respond request = some params) :
    offers request (route :: rest) = (route, params) :: offers request rest := by
  simp [offers, matched]

end Offers

@[simp] theorem offers_append (request : Request) (first second : List (Route Handler)) :
    offers request (first ++ second) = offers request first ++ offers request second :=
  List.filterMap_append

namespace World

variable (world : World Handler Callback State)

def logMatch (route : Route Handler) (params : Params) : World Handler Callback State :=
  world.log (.routeMatched route.scheme (params.pattern?.getD "") route.priority)

def logDecline (route : Route Handler) : World Handler Callback State :=
  (world.log (.handlerDeclined route.scheme route.pattern)).measure (.declined route.scheme)

/-- Tells that nothing accepted a request. -/
def logUnhandled (handle : Handle) (request : Request) : World Handler Callback State :=
  (world.log (.unhandledUrl handle.scheme request.source)).measure
    (.dispatched handle.scheme .unmatched)

end World

/-- Goes on with `second` if nothing was accepted by the end of `first`. -/
def Action.orElse {Context : Type} (first second : Action Context Bool) : Action Context Bool :=
  fun state =>
    match first state with
    | (.returned false, later) => second later
    | ended => ended

namespace Application

/-- Asks for one offer after the other until one is accepted. -/
def attempt (app : Application Handler Callback State) :
    List (Route Handler × Params) → Action (World Handler Callback State) Bool
  | [] => pure false
  | (route, params) :: rest => do
      Action.modify (World.logMatch · route params)
      if ← app.accept route params then pure true
      else do
        Action.modify (World.logDecline · route)
        app.attempt rest

/-- Goes on with the global routes if there is need and leave to do so. -/
def resort (app : Application Handler Callback State) (handle : Handle)
    (entry : Entry Handler Callback) (request : Request) (own : Bool) :
    Action (World Handler Callback State) Bool :=
  if !own && entry.fallback && !handle.isGlobal then app.walkGlobal handle request else pure own

/-- Measures how the dispatch ended, and calls the callback for a URL that nothing accepted. -/
def conclude (app : Application Handler Callback State) (handle : Handle)
    (entry : Entry Handler Callback) (request : Request) (handled : Bool) :
    Action (World Handler Callback State) Bool :=
  if handled then do
    Action.modify (·.measure (.dispatched handle.scheme .handled))
    pure true
  else do
    Action.modify (World.logUnhandled · handle request)
    match entry.unmatched with
    | none => pure false
    | some callback => do
        app.unmatched callback handle request.source request.additional
        pure false

variable (app : Application Handler Callback State) (handle : Handle)
  (entry : Entry Handler Callback) (request : Request)

theorem dispatch_eq_phases : app.dispatch handle entry request =
    app.walk request entry.routes >>= app.resort handle entry request >>=
      app.conclude handle entry request := by
  have phases : app.dispatch handle entry request =
      app.walk request entry.routes >>= fun own =>
        app.resort handle entry request own >>= app.conclude handle entry request := by
    unfold dispatch
    congr 1
    funext own
    unfold resort
    cases !own && entry.fallback && !handle.isGlobal <;> rfl
  rw [phases]
  funext world
  simp only [Action.bind_apply]
  split <;> rfl

theorem walk_eq_attempt (routes : List (Route Handler)) :
    app.walk request routes = app.attempt (offers request routes) := by
  induction routes with
  | nil => rfl
  | cons route rest ih =>
      unfold walk
      split
      · rename_i passed
        rw [offers_cons_of_none passed, ih]
      · rename_i params matched
        rw [offers_cons_of_some matched, ih]
        rfl

theorem walkGlobal_apply (world : World Handler Callback State) :
    app.walkGlobal handle request world =
      app.attempt (offers request (world.registry.routes globalScheme))
        (world.log (.fallingBack handle.scheme request.source)) := by
  rw [← walk_eq_attempt]
  rfl

/-- The global routes are looked up in the world that the routes of the scheme leave. -/
theorem walk_resort_apply {world middle : World Handler Callback State} {verdict : Outcome Bool}
    (walked : app.attempt (offers request entry.routes) world = (verdict, middle)) :
    (app.walk request entry.routes >>= app.resort handle entry request) world =
      if verdict = .returned false ∧ (entry.fallback && !handle.isGlobal) = true then
        app.attempt (offers request (middle.registry.routes globalScheme))
          (middle.log (.fallingBack handle.scheme request.source))
      else (verdict, middle) := by
  rw [walk_eq_attempt, Action.bind_apply, walked]
  cases verdict with
  | halted cause => simp
  | returned accepted =>
      cases accepted with
      | true => simp [resort, Action.pure_apply]
      | false =>
          cases follows : entry.fallback && !handle.isGlobal with
          | true => simp [resort, follows, walkGlobal_apply]
          | false => simp [resort, follows, Action.pure_apply]

theorem conclude_true (world : World Handler Callback State) :
    app.conclude handle entry request true world =
      (.returned true, world.measure (.dispatched handle.scheme .handled)) :=
  rfl

section Unhandled

variable {entry}

theorem conclude_of_none (silent : entry.unmatched = none)
    (world : World Handler Callback State) :
    app.conclude handle entry request false world =
      (.returned false, world.logUnhandled handle request) := by
  simp only [conclude, silent]
  rfl

theorem conclude_of_some {callback : Callback} (heard : entry.unmatched = some callback)
    (world : World Handler Callback State) :
    app.conclude handle entry request false world =
      (app.unmatched callback handle request.source request.additional >>= fun _ => pure false)
        (world.logUnhandled handle request) := by
  simp only [conclude, heard]
  rfl

end Unhandled

theorem attempt_cons (route : Route Handler) (params : Params)
    (rest : List (Route Handler × Params)) (world : World Handler Callback State) :
    app.attempt ((route, params) :: rest) world =
      match app.accept route params (world.logMatch route params) with
      | (.returned true, later) => (.returned true, later)
      | (.returned false, later) => app.attempt rest (later.logDecline route)
      | (.halted cause, later) => (.halted cause, later) := by
  rw [attempt, Action.bind_apply]
  simp only [Action.modify, Action.bind_apply]
  rcases app.accept route params (world.logMatch route params) with ⟨_ | _, later⟩
  · rename_i accepted
    cases accepted <;> rfl
  · rfl

/-- The later offers are made if all the earlier ones are declined. -/
theorem attempt_append (first second : List (Route Handler × Params)) :
    app.attempt (first ++ second) = (app.attempt first).orElse (app.attempt second) := by
  funext world
  induction first generalizing world with
  | nil => rfl
  | cons offer rest ih =>
      obtain ⟨route, params⟩ := offer
      rw [List.cons_append, attempt_cons, Action.orElse, attempt_cons]
      rcases app.accept route params (world.logMatch route params) with ⟨_ | _, later⟩
      · rename_i accepted
        cases accepted with
        | true => rfl
        | false => exact ih (later.logDecline route)
      · rfl

variable {handle} {source : String} {params : Params}

theorem route_of_error [Url.Names] {error : UrlError} (refused : Url.parse source = .error error)
    (world : World Handler Callback State) : app.route handle source params world =
      (.returned false, (world.log (.unparseableUrl handle.scheme source error)).measure
        (.dispatched handle.scheme .invalidUrl)) := by
  simp only [route, refused]
  rfl

theorem route_of_ok [Url.Names] {url : Url} (parsed : Url.parse source = .ok url)
    (world : World Handler Callback State) : app.route handle source params world =
      app.dispatch handle (world.registry.entry handle.scheme) (world.request source url params)
        world := by
  simp only [route, parsed]
  rfl

end Application

end LinkRouting
