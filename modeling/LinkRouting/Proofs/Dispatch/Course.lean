import LinkRouting.Proofs.Dispatch.Phases

namespace LinkRouting

/-! What a dispatch goes by while its handlers do as they like with the world.  The routes of the
scheme, the request, the fallback and the callback are those of the world in which it began, and
only the global routes are those of the world in which their turn came.
-/

variable {Handler Callback State : Type}

namespace World

variable {earlier middle later : World Handler Callback State}

/-- Between two worlds there were signals and nothing else. -/
def Told (earlier later : World Handler Callback State) : Prop :=
  ∃ signals, later = { earlier with journal := signals ++ earlier.journal }

theorem Told.refl (world : World Handler Callback State) : world.Told world :=
  ⟨[], rfl⟩

theorem Told.trans (first : earlier.Told middle) (second : middle.Told later) :
    earlier.Told later := by
  obtain ⟨signals, rfl⟩ := first
  obtain ⟨more, rfl⟩ := second
  exact ⟨more ++ signals, by rw [List.append_assoc]⟩

theorem Told.signal (told : earlier.Told later) (signal : Signal) :
    earlier.Told (later.signal signal) :=
  told.trans ⟨[signal], rfl⟩

theorem Told.registry (told : earlier.Told later) : later.registry = earlier.registry := by
  obtain ⟨signals, rfl⟩ := told
  rfl

end World

/-- The handler of a route was run, and took one world to another.  A route without a handler
accepts and does nothing. -/
def Application.Ran (app : Application Handler Callback State) (route : Route Handler)
    (params : Params) (before : World Handler Callback State) (outcome : Outcome Bool)
    (after : World Handler Callback State) : Prop :=
  match route.handler with
  | none => outcome = .returned true ∧ after = before
  | some handler => app.handle handler params before = (outcome, after)

/-- A route that was tried in one world and left another. -/
structure Trial (app : Application Handler Callback State) where
  route : Route Handler
  params : Params
  before : World Handler Callback State
  outcome : Outcome Bool
  after : World Handler Callback State
  genuine : app.Ran route params before outcome after

def Trial.offer {app : Application Handler Callback State} (trial : Trial app) :
    Route Handler × Params :=
  (trial.route, trial.params)

/-- Offers are tried in their order until one is not declined, and nothing else happens. -/
inductive Course (app : Application Handler Callback State) :
    List (Route Handler × Params) → World Handler Callback State → List (Trial app) →
      Outcome Bool → World Handler Callback State → Prop where
  | exhausted {start finish} (told : start.Told finish) :
      Course app [] start [] (.returned false) finish
  | declined {start finish rest trials verdict} (trial : Trial app)
      (told : start.Told trial.before) (answer : trial.outcome = .returned false)
      (others : Course app rest trial.after trials verdict finish) :
      Course app (trial.offer :: rest) start (trial :: trials) verdict finish
  | ended {start finish rest verdict} (trial : Trial app) (told : start.Told trial.before)
      (answer : trial.outcome = verdict) (final : verdict ≠ .returned false)
      (after : trial.after.Told finish) :
      Course app (trial.offer :: rest) start [trial] verdict finish

namespace Course

variable {app : Application Handler Callback State} {offered : List (Route Handler × Params)}
  {start finish : World Handler Callback State} {trials : List (Trial app)}
  {verdict : Outcome Bool}

/-- Each trial finds the registry as the one before left it, and so it stays in the end. -/
theorem registries (course : Course app offered start trials verdict finish) :
    start.registry :: trials.map (·.after.registry) =
      trials.map (·.before.registry) ++ [finish.registry] := by
  induction course with
  | exhausted told => simp [told.registry]
  | declined trial told answer others ih =>
      rw [List.map_cons, List.map_cons, List.cons_append, ih, told.registry]
  | ended trial told answer final after => simp [told.registry, after.registry]

end Course

/-- After the trials at most the callback is called, and that only if nothing was accepted. -/
inductive Conclusion (app : Application Handler Callback State) (handle : Handle)
    (source : String) (params : Params) : Option Callback → Outcome Bool →
      World Handler Callback State → Outcome Bool × World Handler Callback State → Prop where
  | unheard {unmatched verdict start finish}
      (silent : verdict = .returned false → unmatched = none) (told : start.Told finish) :
      Conclusion app handle source params unmatched verdict start (verdict, finish)
  | reported {callback start before} (told : start.Told before) :
      Conclusion app handle source params (some callback) (.returned false) start
        ((app.unmatched callback handle source params >>= fun _ => pure false) before)

namespace Application

variable (app : Application Handler Callback State) {start world : World Handler Callback State}

theorem ran_of_accept {route : Route Handler} {params : Params}
    {before after : World Handler Callback State} {outcome : Outcome Bool}
    (asked : app.accept route params before = (outcome, after)) :
    app.Ran route params before outcome after := by
  unfold accept Route.call at asked
  unfold Ran
  cases bound : route.handler with
  | none =>
      rw [bound] at asked
      cases asked
      exact ⟨rfl, rfl⟩
  | some handler =>
      rw [bound] at asked
      exact asked

theorem course_attempt (offered : List (Route Handler × Params)) (told : start.Told world) :
    ∃ trials, Course app offered start trials (app.attempt offered world).1
      (app.attempt offered world).2 := by
  induction offered generalizing start world with
  | nil => exact ⟨[], .exhausted told⟩
  | cons offer rest ih =>
      obtain ⟨route, params⟩ := offer
      have before : start.Told (world.logMatch route params) := told.signal _
      rw [attempt_cons]
      cases asked : app.accept route params (world.logMatch route params) with
      | mk outcome after =>
          let trial : Trial app := ⟨route, params, _, outcome, after, app.ran_of_accept asked⟩
          cases outcome with
          | halted cause => exact ⟨[trial], .ended trial before rfl (by simp) (.refl after)⟩
          | returned accepted =>
              cases accepted with
              | true => exact ⟨[trial], .ended trial before rfl (by simp) (.refl after)⟩
              | false =>
                  -- The rest of the course starts where the handler left off.
                  obtain ⟨trials, others⟩ := ih (((World.Told.refl after).signal _).signal _)
                  exact ⟨trial :: trials, .declined trial before rfl others⟩

theorem conclusion_conclude (handle : Handle) (entry : Entry Handler Callback)
    (request : Request) (handled : Bool) (told : start.Told world) :
    Conclusion app handle request.source request.additional entry.unmatched (.returned handled)
      start (app.conclude handle entry request handled world) := by
  cases handled with
  | true => exact .unheard nofun (told.signal _)
  | false =>
      have before : start.Told (world.logUnhandled handle request) :=
        (told.signal _).signal _
      cases heard : entry.unmatched with
      | none =>
          rw [conclude_of_none _ _ _ heard]
          exact .unheard (fun _ => rfl) before
      | some callback =>
          rw [conclude_of_some _ _ _ heard]
          exact .reported before

theorem conclusion_bind (handle : Handle) (entry : Entry Handler Callback) (request : Request)
    (action : Action (World Handler Callback State) Bool) (world : World Handler Callback State) :
    Conclusion app handle request.source request.additional entry.unmatched (action world).1
      (action world).2 ((action >>= app.conclude handle entry request) world) := by
  rw [Action.bind_apply]
  cases action world with
  | mk outcome later =>
      cases outcome with
      | returned handled => exact app.conclusion_conclude handle entry request handled (.refl later)
      | halted cause => exact .unheard nofun (.refl later)

theorem dispatch_isolated (handle : Handle) (request : Request)
    (world : World Handler Callback State) :
    let entry := world.registry.entry handle.scheme
    let result := app.dispatch handle entry request world
    ∃ own verdict middle, Course app (offers request entry.routes) world own verdict middle ∧
      if verdict = .returned false ∧ entry.fallback ∧ handle.scheme ≠ globalScheme then
        ∃ others final last,
          Course app (offers request (middle.registry.routes globalScheme)) middle others final
            last ∧
          Conclusion app handle request.source request.additional entry.unmatched final last result
      else
        Conclusion app handle request.source request.additional entry.unmatched verdict middle
          result := by
  intro entry result
  obtain ⟨own, course⟩ := app.course_attempt (offers request entry.routes) (.refl world)
  have ending := app.conclusion_bind handle entry request
    (app.walk request entry.routes >>= app.resort handle entry request) world
  rw [← dispatch_eq_phases] at ending
  cases walked : app.attempt (offers request entry.routes) world with
  | mk verdict middle =>
      rw [walked] at course
      have leave : (entry.fallback && !handle.isGlobal) = true ↔
          entry.fallback = true ∧ handle.scheme ≠ globalScheme := by
        simp [Handle.isGlobal]
      rw [app.walk_resort_apply handle entry request walked] at ending
      simp only [leave] at ending
      refine ⟨own, verdict, middle, course, ?_⟩
      by_cases follows : verdict = .returned false ∧ entry.fallback = true ∧
          handle.scheme ≠ globalScheme
      · have told : middle.Told (middle.log (.fallingBack handle.scheme request.source)) :=
          (World.Told.refl middle).signal _
        obtain ⟨others, global⟩ :=
          app.course_attempt (offers request (middle.registry.routes globalScheme)) told
        rw [if_pos follows] at ending ⊢
        exact ⟨others, _, _, global, ending⟩
      · rw [if_neg follows] at ending ⊢
        exact ending

end Application

/-- Handlers may do what they like, they cannot disturb the dispatch that called them.  It tries
the routes that its scheme had when it began, for a request with the options of that time.  Only
when they have all declined, and the fallback was on, it looks up the global routes.  The
callback is the one that was set when it began.  Between the runs of handlers nothing but signals
happens, so what is registered in the end is what they and the callback have made of it. -/
theorem route_isolated [Url.Names] (app : Application Handler Callback State) (handle : Handle)
    (source : String) (params : Params) (world : World Handler Callback State) :
    let entry := (world.registry.table.get? handle.scheme).getD {}
    let result := app.route handle source params world
    match Url.parse source with
    | .error _ => result.1 = .returned false ∧ world.Told result.2
    | .ok url =>
        let request := Request.ofUrl source url world.registry.options params
        ∃ own verdict middle, Course app (offers request entry.routes) world own verdict middle ∧
          if verdict = .returned false ∧ entry.fallback ∧ handle.scheme ≠ globalScheme then
            let global := (middle.registry.table.get? globalScheme).getD {}
            ∃ others final last,
              Course app (offers request global.routes) middle others final last ∧
              Conclusion app handle source params entry.unmatched final last result
          else Conclusion app handle source params entry.unmatched verdict middle result := by
  cases parsed : Url.parse source with
  | error error =>
      rw [app.route_of_error parsed]
      exact ⟨rfl, ((World.Told.refl world).signal _).signal _⟩
  | ok url =>
      rw [app.route_of_ok parsed]
      exact app.dispatch_isolated handle (world.request source url params) world

end LinkRouting
