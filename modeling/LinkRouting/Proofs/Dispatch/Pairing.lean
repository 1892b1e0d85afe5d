import LinkRouting.Proofs.Dispatch.Phases
import Mathlib.Data.List.Forall2

namespace LinkRouting

/-! Two dispatches side by side.  What goes together in them is told by a pairing, and worlds may go
together in any way that signals respect.  As long as handlers and callbacks go together, so do the
dispatches: they end alike, in worlds that go together again.
-/

variable {Handler Callback State Twin α β : Type}

/-- What goes together with what: names of schemes, texts of URLs, parameters that callers give, and
those that handlers are asked with. -/
structure Pairing [Url.Names] where
  names : String → String → Prop
  texts : String → String → Prop
  given : Params → Params → Prop
  asked : Params → Params → Prop
  lower : ∀ {name other}, names name other → name.toLower = other.toLower
  parse : ∀ {source variant}, texts source variant → Url.parse source = Url.parse variant
  respond : ∀ {source variant params others}, texts source variant → given params others →
    ∀ (candidate : PathPattern) (scheme : String) (url : Url) (options : Options),
      Option.Rel asked (candidate.respond scheme (.ofUrl source url options params))
        (candidate.respond scheme (.ofUrl variant url options others))

namespace Pairing

theorem respond_same (candidate : PathPattern) (scheme : String) (request : Request) :
    Option.Rel Eq (candidate.respond scheme request) (candidate.respond scheme request) := by
  cases candidate.respond scheme request with
  | none => exact .none
  | some params => exact .some rfl

/-- Everything goes together with itself alone. -/
def same [Url.Names] : Pairing where
  names := Eq
  texts := Eq
  given := Eq
  asked := Eq
  lower equal := congrArg String.toLower equal
  parse equal := congrArg Url.parse equal
  respond := by
    rintro source _ params _ rfl rfl candidate scheme url options
    exact respond_same candidate scheme _

variable [Url.Names] (pairing : Pairing)

/-- Signals that are the same unless different texts or parameters go together. -/
def Signals (signal other : Signal) : Prop :=
  (∀ source variant, pairing.texts source variant → source = variant) →
    (∀ params others, pairing.asked params others → params = others) → signal = other

structure Requests (request other : Request) : Prop where
  source : pairing.texts request.source other.source
  additional : pairing.given request.additional other.additional
  respond : ∀ candidate : PathPattern, ∀ scheme, Option.Rel pairing.asked
    (candidate.respond scheme request) (candidate.respond scheme other)

def Offers (offer other : Route Handler × Params) : Prop :=
  offer.1 = other.1 ∧ pairing.asked offer.2 other.2

variable {pairing} {request other : Request}

theorem Requests.route (paired : pairing.Requests request other) (route : Route Handler) :
    Option.Rel pairing.asked (route.respond request) (route.respond other) := by
  unfold Route.respond
  induction route.candidates with
  | nil => exact .none
  | cons candidate rest ih =>
      have first := paired.respond candidate route.scheme
      rw [List.findSome?_cons, List.findSome?_cons]
      generalize candidate.respond route.scheme request = answer at first ⊢
      generalize candidate.respond route.scheme other = reply at first ⊢
      cases first with
      | none => exact ih
      | some asked => exact .some asked

theorem Requests.offers (paired : pairing.Requests request other)
    (routes : List (Route Handler)) :
    List.Forall₂ pairing.Offers (offers request routes) (offers other routes) := by
  induction routes with
  | nil => exact .nil
  | cons route rest ih =>
      have first := paired.route route
      generalize passed : route.respond request = answer at first
      generalize also : route.respond other = reply at first
      cases first with
      | none => rwa [offers_cons_of_none passed, offers_cons_of_none also]
      | some asked =>
          rw [offers_cons_of_some passed, offers_cons_of_some also]
          exact .cons ⟨rfl, asked⟩ ih

theorem Requests.same (request : Request) : Pairing.same.Requests request request where
  source := rfl
  additional := rfl
  respond candidate scheme := respond_same candidate scheme request

theorem requests {source variant : String} {params others : Params}
    (texts : pairing.texts source variant) (given : pairing.given params others) (url : Url)
    (options : Options) :
    pairing.Requests (.ofUrl source url options params) (.ofUrl variant url options others) where
  source := texts
  additional := given
  respond candidate scheme := pairing.respond texts given candidate scheme url options

end Pairing

/-- The actions end alike, and their states go together afterwards if they did before. -/
def Action.Paired {Context Other : Type} (related : Context → Other → Prop)
    (action : Action Context α) (twin : Action Other α) : Prop :=
  ∀ state other, related state other →
    (action state).1 = (twin other).1 ∧ related (action state).2 (twin other).2

namespace Action.Paired

variable {Context Other : Type} {related : Context → Other → Prop} {action : Action Context α}
  {twin : Action Other α}

theorem pure (value : α) :
    Paired related (pure value : Action Context α) (pure value : Action Other α) :=
  fun _ _ together => ⟨rfl, together⟩

theorem halt (cause : Halt) :
    Paired related (halt cause : Action Context α) (halt cause : Action Other α) :=
  fun _ _ together => ⟨rfl, together⟩

theorem modify {change : Context → Context} {other : Other → Other}
    (kept : ∀ state twin, related state twin → related (change state) (other twin)) :
    Paired related (modify change) (modify other) :=
  fun state twin together => ⟨rfl, kept state twin together⟩

theorem step {run : Context → α × Context} {other : Other → α × Other}
    (alike : ∀ state twin, related state twin →
      (run state).1 = (other twin).1 ∧ related (run state).2 (other twin).2) :
    Paired related (step run) (step other) :=
  fun state twin together =>
    (alike state twin together).imp_left (congrArg Outcome.returned)

theorem bind {next : α → Action Context β} {other : α → Action Other β}
    (first : Paired related action twin)
    (second : ∀ value, Paired related (next value) (other value)) :
    Paired related (action >>= next) (twin >>= other) := by
  intro state also together
  have after := first state also together
  rw [bind_apply, bind_apply]
  generalize action state = result at after ⊢
  generalize twin also = reply at after ⊢
  obtain ⟨ended, state⟩ := result
  obtain ⟨alike, also⟩ := reply
  obtain ⟨rfl, later⟩ := after
  cases ended with
  | returned value => exact second value state also later
  | halted cause => exact ⟨rfl, later⟩

/-- What is looked up may differ as far as states do that go together. -/
theorem bind_get {next : Context → Action Context β} {other : Other → Action Other β}
    (second : ∀ state twin, related state twin → Paired related (next state) (other twin)) :
    Paired related (get >>= next) (get >>= other) :=
  fun state twin together => second state twin together state twin together

theorem guarded (paired : Paired related action twin) :
    Paired related (guarded action) (guarded twin) := by
  intro state also together
  have after := paired state also together
  unfold Action.guarded
  generalize action state = result at after ⊢
  generalize twin also = reply at after ⊢
  obtain ⟨ended, state⟩ := result
  obtain ⟨alike, also⟩ := reply
  obtain ⟨rfl, later⟩ := after
  cases ended with
  | returned value => exact ⟨rfl, later⟩
  | halted cause =>
      cases cause with
      | panicked message => exact ⟨rfl, later⟩
      | exhausted => exact ⟨rfl, later⟩

end Action.Paired

/-- Worlds that go together have the same registry, and still go together after signals that do. -/
structure Pairing.Respected [Url.Names] (pairing : Pairing)
    (related : World Handler Callback State → World Handler Callback Twin → Prop) : Prop where
  registry : ∀ {world twin}, related world twin → world.registry = twin.registry
  signal : ∀ {world twin} (signal other : Signal), pairing.Signals signal other →
    related world twin → related (world.signal signal) (twin.signal other)

namespace Application

open LinkRouting.Action

variable {related : World Handler Callback State → World Handler Callback Twin → Prop}
  {app : Application Handler Callback State} {twin : Application Handler Callback Twin}

/-- Two offers are logged, asked for and declined in worlds that go together. -/
structure Abreast (related : World Handler Callback State → World Handler Callback Twin → Prop)
    (app : Application Handler Callback State) (twin : Application Handler Callback Twin)
    (offer other : Route Handler × Params) : Prop where
  matched : ∀ world twin, related world twin →
    related (world.logMatch offer.1 offer.2) (twin.logMatch other.1 other.2)
  accept : Action.Paired related (app.accept offer.1 offer.2) (twin.accept other.1 other.2)
  declined : ∀ world twin, related world twin →
    related (world.logDecline offer.1) (twin.logDecline other.1)

theorem attempt_of_abreast {offered others : List (Route Handler × Params)}
    (abreast : List.Forall₂ (Abreast related app twin) offered others) :
    Action.Paired related (app.attempt offered) (twin.attempt others) := by
  induction abreast with
  | nil => exact .pure false
  | cons first rest ih =>
      refine .bind (.modify first.matched) fun _ => .bind first.accept fun accepted => ?_
      split
      · exact .pure true
      · exact .bind (.modify first.declined) fun _ => ih

variable [Url.Names] {pairing : Pairing}

/-- Handlers and callbacks go together. -/
structure Paired (pairing : Pairing)
    (related : World Handler Callback State → World Handler Callback Twin → Prop)
    (app : Application Handler Callback State) (twin : Application Handler Callback Twin) :
    Prop where
  handle : ∀ handler params others, pairing.asked params others →
    Action.Paired related (app.handle handler params) (twin.handle handler others)
  unmatched : ∀ callback handle source variant params others,
    pairing.texts source variant → pairing.given params others →
    Action.Paired related (app.unmatched callback handle source params)
      (twin.unmatched callback handle variant others)

namespace Paired

variable (paired : app.Paired pairing related twin) (respected : pairing.Respected related)
  {request other : Request} (requests : pairing.Requests request other) (handle : Handle)
  (entry : Entry Handler Callback)

include paired

theorem accept (route : Route Handler) {params others : Params}
    (asked : pairing.asked params others) :
    Action.Paired related (app.accept route params) (twin.accept route others) := by
  unfold Application.accept Route.call
  split
  · exact .pure true
  · exact paired.handle _ params others asked

include respected

theorem attempt {offered others : List (Route Handler × Params)}
    (same : List.Forall₂ pairing.Offers offered others) :
    Action.Paired related (app.attempt offered) (twin.attempt others) := by
  refine attempt_of_abreast (same.imp fun offer other together => ?_)
  obtain ⟨route, params⟩ := offer
  obtain ⟨_, others⟩ := other
  obtain ⟨rfl, asked⟩ := together
  refine ⟨fun world twin together => ?_, paired.accept route asked, fun world twin together => ?_⟩
  · refine respected.signal _ _ (fun _ equal => ?_) together
    rw [equal params others asked]
  · exact respected.signal _ _ (fun _ _ => rfl)
      (respected.signal _ _ (fun _ _ => rfl) together)

include requests

theorem walk (routes : List (Route Handler)) :
    Action.Paired related (app.walk request routes) (twin.walk other routes) := by
  rw [walk_eq_attempt, walk_eq_attempt]
  exact paired.attempt respected (requests.offers routes)

theorem resort (own : Bool) : Action.Paired related (app.resort handle entry request own)
    (twin.resort handle entry other own) := by
  unfold Application.resort
  split
  · refine .bind (.modify fun world twin together => ?_) fun _ => .bind_get ?_
    · refine respected.signal _ _ (fun equal _ => ?_) together
      rw [equal _ _ requests.source]
    · intro world twin together
      rw [respected.registry together]
      exact paired.walk respected requests _
  · exact .pure own

theorem conclude (handled : Bool) :
    Action.Paired related (app.conclude handle entry request handled)
      (twin.conclude handle entry other handled) := by
  unfold Application.conclude
  split
  · refine .bind (.modify fun world twin together => ?_) fun _ => .pure true
    exact respected.signal _ _ (fun _ _ => rfl) together
  · refine .bind (.modify fun world twin together => ?_) fun _ => ?_
    · refine respected.signal _ _ (fun _ _ => rfl)
        (respected.signal _ _ (fun equal _ => ?_) together)
      rw [equal _ _ requests.source]
    · split
      · exact .pure false
      · exact .bind (paired.unmatched _ handle _ _ _ _ requests.source requests.additional)
          fun _ => .pure false

theorem dispatch : Action.Paired related (app.dispatch handle entry request)
    (twin.dispatch handle entry other) := by
  rw [dispatch_eq_phases, dispatch_eq_phases]
  exact .bind (.bind (paired.walk respected requests _)
    (paired.resort respected requests handle entry))
    (paired.conclude respected requests handle entry)

omit requests in
theorem route {source variant : String} {params others : Params}
    (texts : pairing.texts source variant) (given : pairing.given params others) :
    Action.Paired related (app.route handle source params) (twin.route handle variant others) := by
  unfold Application.route
  rw [pairing.parse texts]
  split
  · refine .bind (.modify fun world twin together => ?_) fun _ => .pure false
    refine respected.signal _ _ (fun _ _ => rfl) (respected.signal _ _ (fun equal _ => ?_) together)
    rw [equal _ _ texts]
  · refine .bind_get fun world twin together => ?_
    unfold World.request
    rw [respected.registry together]
    exact paired.dispatch respected (pairing.requests texts given _ _) handle _

end Paired

end Application

end LinkRouting
