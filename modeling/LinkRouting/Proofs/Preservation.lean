import LinkRouting.Proofs.Dispatch.Phases

namespace LinkRouting

variable {Handler Callback State : Type}

namespace Action

variable {Context α β : Type} {holds : Context → Prop}

/-- What holds of a state holds of the one that the action leaves, however it ends. -/
def Preserves (holds : Context → Prop) (action : Action Context α) : Prop :=
  ∀ state, holds state → holds (action state).2

theorem Preserves.pure (value : α) : Preserves holds (pure value : Action Context α) :=
  fun _ held => held

theorem Preserves.get : Preserves holds (get : Action Context Context) :=
  fun _ held => held

theorem Preserves.halt (cause : Halt) : Preserves holds (halt cause : Action Context α) :=
  fun _ held => held

theorem Preserves.modify {change : Context → Context}
    (kept : ∀ state, holds state → holds (change state)) : Preserves holds (modify change) :=
  kept

theorem Preserves.bind {first : Action Context α} {next : α → Action Context β}
    (firstKeeps : Preserves holds first) (nextKeeps : ∀ value, Preserves holds (next value)) :
    Preserves holds (first >>= next) := by
  intro state held
  have middle := firstKeeps state held
  rw [bind_apply]
  cases ended : first state with
  | mk outcome later =>
      rw [ended] at middle
      cases outcome with
      | returned value => exact nextKeeps value later middle
      | halted cause => exact middle

theorem Preserves.guarded {action : Action Context α} (keeps : Preserves holds action) :
    Preserves holds (guarded action) := by
  intro state held
  have after := keeps state held
  unfold Action.guarded
  split
  · rename_i ended
    rwa [ended] at after
  · rename_i ended
    rwa [ended] at after
  · rename_i ended
    rwa [ended] at after

end Action

/-- The scheme whose routes a signal counts, and their number.  A dispatch counts no routes. -/
def Signal.count? : Signal → Option (String × Nat)
  | .measured (.registered scheme count) => some (scheme, count)
  | _ => none

namespace World

variable {holds : World Handler Callback State → Prop}

/-- Signals that count no routes do not matter for `holds`. -/
def Unheard (holds : World Handler Callback State → Prop) : Prop :=
  ∀ world (signal : Signal), signal.count? = none → holds world → holds (world.signal signal)

end World

namespace Application

open LinkRouting.Action

variable {app : Application Handler Callback State}
  {holds : World Handler Callback State → Prop}

/-- Handlers and callbacks keep `holds`. -/
structure Keeps (app : Application Handler Callback State)
    (holds : World Handler Callback State → Prop) : Prop where
  handle : ∀ handler params, Preserves holds (app.handle handler params)
  unmatched : ∀ callback handle source params,
    Preserves holds (app.unmatched callback handle source params)

theorem Keeps.accept (keeps : app.Keeps holds) (route : Route Handler) (params : Params) :
    Preserves holds (app.accept route params) := by
  unfold Application.accept Route.call
  split
  · exact .pure true
  · exact keeps.handle _ params

theorem Keeps.attempt (keeps : app.Keeps holds) (unheard : World.Unheard holds)
    (offered : List (Route Handler × Params)) : Preserves holds (app.attempt offered) := by
  induction offered with
  | nil => exact .pure false
  | cons offer rest ih =>
      obtain ⟨route, params⟩ := offer
      refine .bind (.modify fun world held => unheard world _ rfl held) fun _ => ?_
      refine .bind (keeps.accept route params) fun accepted => ?_
      split
      · exact .pure true
      · refine .bind (.modify fun world held => ?_) fun _ => ih
        exact unheard _ _ rfl (unheard world _ rfl held)

theorem Keeps.walk (keeps : app.Keeps holds) (unheard : World.Unheard holds) (request : Request)
    (routes : List (Route Handler)) : Preserves holds (app.walk request routes) := by
  rw [walk_eq_attempt]
  exact keeps.attempt unheard _

theorem Keeps.walkGlobal (keeps : app.Keeps holds) (unheard : World.Unheard holds)
    (handle : Handle) (request : Request) : Preserves holds (app.walkGlobal handle request) := by
  refine .bind (.modify fun world held => unheard world _ rfl held) fun _ => ?_
  exact .bind .get fun world => keeps.walk unheard request _

theorem Keeps.resort (keeps : app.Keeps holds) (unheard : World.Unheard holds) (handle : Handle)
    (entry : Entry Handler Callback) (request : Request) (own : Bool) :
    Preserves holds (app.resort handle entry request own) := by
  unfold Application.resort
  split
  · exact keeps.walkGlobal unheard handle request
  · exact .pure own

theorem Keeps.conclude (keeps : app.Keeps holds) (unheard : World.Unheard holds)
    (handle : Handle) (entry : Entry Handler Callback) (request : Request) (handled : Bool) :
    Preserves holds (app.conclude handle entry request handled) := by
  unfold Application.conclude
  split
  · exact .bind (.modify fun world held => unheard world _ rfl held) fun _ => .pure true
  · refine .bind (.modify fun world held => ?_) fun _ => ?_
    · exact unheard _ _ rfl (unheard world _ rfl held)
    · split
      · exact .pure false
      · exact .bind (keeps.unmatched _ handle _ _) fun _ => .pure false

theorem Keeps.dispatch (keeps : app.Keeps holds) (unheard : World.Unheard holds)
    (handle : Handle) (entry : Entry Handler Callback) (request : Request) :
    Preserves holds (app.dispatch handle entry request) := by
  rw [dispatch_eq_phases]
  exact .bind (.bind (keeps.walk unheard request _) (keeps.resort unheard handle entry request))
    (keeps.conclude unheard handle entry request)

theorem Keeps.route [Url.Names] (keeps : app.Keeps holds) (unheard : World.Unheard holds)
    (handle : Handle) (source : String) (params : Params) :
    Preserves holds (app.route handle source params) := by
  unfold Application.route
  split
  · refine .bind (.modify fun world held => ?_) fun _ => .pure false
    exact unheard _ _ rfl (unheard world _ rfl held)
  · exact .bind .get fun world => keeps.dispatch unheard handle _ _

end Application

end LinkRouting
