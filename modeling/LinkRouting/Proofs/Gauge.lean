import LinkRouting.Proofs.Ledger

namespace LinkRouting

/-! Gauges that count the routes of each scheme.  Whatever changes the routes of a scheme also
measures them, except that a scheme may be unregistered with all its routes.  A gauge that is
wrong therefore still shows how many routes there were then, and the scheme has had none since.
-/

variable {Handler Callback State α : Type}

namespace World

/-- What was last measured for the routes of a scheme. -/
def gauge? (world : World Handler Callback State) (scheme : String) : Option Nat :=
  (world.journal.filterMap Signal.count?).lookup scheme

variable {world before middle after : World Handler Callback State} {handle : Handle}
  {scheme : String}

theorem gauge?_signal {signal : Signal} (uncounted : signal.count? = none) :
    (world.signal signal).gauge? scheme = world.gauge? scheme :=
  congrArg (List.lookup scheme) (List.filterMap_cons_none uncounted)

theorem gauge?_measure (counted : String) (count : Nat) :
    (world.measure (.registered counted count)).gauge? scheme =
      if scheme = counted then some count else world.gauge? scheme :=
  Dictionary.lookup_cons_eq_ite (counted, count) _

/-- Between two worlds, either the routes of a scheme were measured, or neither they nor their
gauge have changed. -/
def Measured (scheme : String) (before after : World Handler Callback State) : Prop :=
  after.gauge? scheme = some (after.registry.routes scheme).length ∨
    after.gauge? scheme = before.gauge? scheme ∧
      after.registry.routes scheme = before.registry.routes scheme

namespace Measured

theorem unchanged (gauge : after.gauge? scheme = before.gauge? scheme)
    (routes : after.registry.routes scheme = before.registry.routes scheme) :
    Measured scheme before after :=
  .inr ⟨gauge, routes⟩

theorem trans (first : Measured scheme before middle) (second : Measured scheme middle after) :
    Measured scheme before after := by
  rcases second with measured | ⟨gauge, routes⟩
  · exact .inl measured
  · rcases first with measured | ⟨older, former⟩
    · exact .inl (by rw [gauge, routes, measured])
    · exact .inr ⟨gauge.trans older, routes.trans former⟩

/-- Routes are measured when those of one scheme may have changed. -/
theorem measureRoutes (gauge : after.gauge? scheme = before.gauge? scheme)
    (routes : scheme ≠ handle.scheme →
      after.registry.routes scheme = before.registry.routes scheme) :
    Measured scheme before (after.measureRoutes handle.scheme) := by
  by_cases same : scheme = handle.scheme
  · refine .inl ((gauge?_measure ..).trans ?_)
    rw [if_pos same, ← same]
    rfl
  · refine .unchanged ((gauge?_measure ..).trans ?_) (routes same)
    rw [if_neg same, gauge]

theorem addRoute (route : Route Handler) :
    Measured scheme world (world.addRoute handle route).2 := by
  refine .measureRoutes (gauge?_signal rfl) fun different => ?_
  exact Registry.routes_addRoute.trans (if_neg different)

theorem addAll (added : List (Route Handler)) :
    Measured scheme world (world.addAll handle added).2 := by
  induction added generalizing world with
  | nil => exact .unchanged rfl rfl
  | cons route rest ih => exact (addRoute route).trans ih

theorem addPattern (pattern : String) (priority : Nat) (handler : Handler) :
    Measured scheme world (world.addPattern handle pattern priority handler).2 := by
  rw [addPattern_snd]
  exact .addAll _

theorem addPatterns (patterns : List String) (handler : Handler) :
    Measured scheme world (world.addPatterns handle patterns handler).2 := by
  rw [addPatterns_snd]
  exact .addAll _

theorem removeFirst (wanted : Route Handler → Bool) :
    Measured scheme world (world.removeFirst handle wanted).2 := by
  unfold World.removeFirst
  split
  · exact .unchanged rfl rfl
  · refine .measureRoutes (gauge?_signal rfl) fun different => ?_
    exact Registry.routes_removeFirst.trans (if_neg different)

theorem removeAll : Measured scheme world (world.removeAll handle) := by
  have routes : (world.removeAll handle).registry.routes scheme =
      if scheme = handle.scheme then [] else world.registry.routes scheme := routes_removeAll
  by_cases same : scheme = handle.scheme
  · rw [if_pos same] at routes
    refine .inl ((gauge?_measure ..).trans ?_)
    rw [if_pos same, routes]
    rfl
  · rw [if_neg same] at routes
    exact .unchanged ((gauge?_measure ..).trans (if_neg same)) routes

theorem canRoute [Url.Names] (source : String) (params : Params) :
    Measured scheme world (world.canRoute handle source params).2 := by
  refine .unchanged ?_ (congrArg (Registry.routes · scheme) (registry_canRoute source params))
  unfold World.canRoute
  split
  · exact gauge?_signal rfl
  · dsimp only
    split
    · rfl
    · split
      · exact gauge?_signal rfl
      · rfl

end Measured

end World

/-- Whether a scheme is taken away with its routes. -/
def Operation.unregisters (scheme : String) : Operation Handler Callback → Bool
  | .unregister name => scheme = (Handle.ofName name).scheme
  | .unregisterAll => true
  | _ => false

namespace Operation

variable {world : World Handler Callback State} {operation : Operation Handler Callback}
  {scheme : String}

theorem measured_perform [Url.Names] (kept : operation.unregisters scheme = false) :
    World.Measured scheme world (operation.perform world).2 := by
  cases operation with
  | routerFor name => exact .unchanged rfl (World.routes_routerFor name)
  | globalRouter => exact .unchanged rfl (World.routes_routerFor globalScheme)
  | unregister name =>
      have different : scheme ≠ (Handle.ofName name).scheme := of_decide_eq_false kept
      refine .unchanged (World.gauge?_signal rfl) ?_
      exact (World.routes_unregister name).trans (if_neg different)
  | unregisterAll => cases kept
  | addRoute handle route => exact .addRoute route
  | addPattern handle pattern priority handler => exact .addPattern pattern priority handler
  | addPatterns handle patterns handler => exact .addPatterns patterns handler
  | setRoute handle pattern handler =>
      cases handler with
      | none => exact .removeFirst _
      | some handler => exact .addPattern pattern 0 handler
  | removeRoute handle route => exact .removeFirst _
  | removePattern handle pattern => exact .removeFirst _
  | removeAll handle => exact .removeAll
  | setFallback handle enabled => exact .unchanged rfl (World.routes_setFallback enabled)
  | setUnmatched handle callback => exact .unchanged rfl (World.routes_setUnmatched callback)
  | clearUnmatched handle => exact .unchanged rfl World.routes_clearUnmatched
  | canRoute handle source params => exact .canRoute source params
  | log event => exact .unchanged (World.gauge?_signal rfl) rfl
  | _ => exact .unchanged rfl rfl

theorem gauge?_perform [Url.Names] (gone : operation.unregisters scheme = true) :
    (operation.perform world).2.gauge? scheme = world.gauge? scheme ∧
      (operation.perform world).2.registry.routes scheme = [] := by
  cases operation with
  | unregister name =>
      have same : scheme = (Handle.ofName name).scheme := of_decide_eq_true gone
      exact ⟨World.gauge?_signal rfl, (World.routes_unregister name).trans (if_pos same)⟩
  | unregisterAll => exact ⟨World.gauge?_signal rfl, World.routes_unregisterAll⟩
  | _ => cases gone

end Operation

def Deed.unregisters (scheme : String) : Deed Handler Callback → Bool
  | .used operation _ => operation.unregisters scheme
  | .dispatched .. => false

/-- A scheme had `count` routes when it was unregistered, and has had none since. -/
inductive Outdated (scheme : String) (count : Nat) : List (Deed Handler Callback) → Prop where
  | unregistered {deed earlier} (gone : deed.unregisters scheme = true)
      (right : count = (ledger scheme earlier).length) : Outdated scheme count (deed :: earlier)
  | since {deed earlier} (outdated : Outdated scheme count earlier)
      (none : ledger scheme (deed :: earlier) = []) : Outdated scheme count (deed :: earlier)

theorem Outdated.exists_unregisters {scheme : String} {count : Nat}
    {past : List (Deed Handler Callback)} (outdated : Outdated scheme count past) :
    ∃ deed ∈ past, deed.unregisters scheme = true := by
  induction outdated with
  | unregistered gone right => exact ⟨_, List.mem_cons_self, gone⟩
  | since outdated none ih =>
      obtain ⟨deed, member, gone⟩ := ih
      exact ⟨deed, List.mem_cons_of_mem _ member, gone⟩

/-- What a gauge may show after deeds of which the latest comes first. -/
def Shows (scheme : String) (past : List (Deed Handler Callback)) : Option Nat → Prop
  | none => ledger scheme past = []
  | some count => count = (ledger scheme past).length ∨
      ledger scheme past = [] ∧ Outdated scheme count past

namespace Shows

variable {scheme : String} {past : List (Deed Handler Callback)} {shown : Option Nat}
  {deed : Deed Handler Callback}

theorem kept (shows : Shows scheme past shown)
    (length : (ledger scheme (deed :: past)).length = (ledger scheme past).length) :
    Shows scheme (deed :: past) shown := by
  cases shown with
  | none =>
      have empty : ledger scheme past = [] := shows
      rw [empty] at length
      exact List.eq_nil_of_length_eq_zero length
  | some count =>
      rcases shows with right | ⟨empty, outdated⟩
      · exact .inl (right.trans length.symm)
      · rw [empty] at length
        have still : ledger scheme (deed :: past) = [] := List.eq_nil_of_length_eq_zero length
        exact .inr ⟨still, outdated.since still⟩

theorem unregistered (shows : Shows scheme past shown) (gone : deed.unregisters scheme = true)
    (empty : ledger scheme (deed :: past) = []) : Shows scheme (deed :: past) shown := by
  cases shown with
  | none => exact empty
  | some count =>
      refine .inr ⟨empty, ?_⟩
      rcases shows with right | ⟨_, outdated⟩
      · exact .unregistered gone right
      · exact outdated.since empty

end Shows

/-- The ledgers account for the routes, and every gauge shows what it may. -/
structure Gauged (world : StoryWorld Handler Callback State) : Prop where
  balanced : Balanced world
  shown : ∀ scheme, Shows scheme world.app.past (world.gauge? scheme)

theorem Balanced.length_routes {world : StoryWorld Handler Callback State}
    (balanced : Balanced world) (scheme : String) :
    (world.registry.routes scheme).length = (ledger scheme world.app.past).length := by
  rw [balanced.accounted.sorted, List.length_mergeSort]

namespace Gauged

variable {world : StoryWorld Handler Callback State}

theorem fresh (options : Options) (own : State) :
    Gauged (.fresh options ⟨own, []⟩ : StoryWorld Handler Callback State) where
  balanced := .fresh options own
  shown _ := rfl

theorem use [Url.Names] (gauged : Gauged world) (operation : Operation Handler Callback) :
    Gauged (StoryWorld.remember (operation.perform world).2
      (.used operation (operation.perform world).1)) := by
  have balanced := gauged.balanced.use operation
  refine ⟨balanced, fun scheme => ?_⟩
  let deed : Deed Handler Callback := .used operation (operation.perform world).1
  let later := (operation.perform world).2
  have past : (StoryWorld.remember later deed).app.past = deed :: world.app.past :=
    congrArg (fun story : Story Handler Callback State => deed :: story.past) Operation.app_perform
  have lengths : (later.registry.routes scheme).length =
      (ledger scheme (deed :: world.app.past)).length := by
    rw [← past]
    exact balanced.length_routes scheme
  have shown := gauged.shown scheme
  change Shows scheme (StoryWorld.remember later deed).app.past (later.gauge? scheme)
  rw [past]
  cases gone : operation.unregisters scheme with
  | true =>
      have emptied : later.gauge? scheme = world.gauge? scheme ∧
          later.registry.routes scheme = [] := Operation.gauge?_perform gone
      rw [emptied.1]
      refine shown.unregistered gone (List.eq_nil_of_length_eq_zero ?_)
      rw [← lengths]
      exact congrArg List.length emptied.2
  | false =>
      have measured : World.Measured scheme world later := Operation.measured_perform gone
      rcases measured with measured | ⟨gauge, routes⟩
      · rw [measured]
        exact .inl lengths
      · rw [gauge]
        refine shown.kept ?_
        rw [← lengths, ← gauged.balanced.length_routes]
        exact congrArg List.length routes

theorem lasting [Url.Names] : StoryWorld.Lasting (@Gauged Handler Callback State) where
  unheard world signal uncounted gauged := by
    refine ⟨Balanced.unheard world signal uncounted gauged.balanced, fun scheme => ?_⟩
    rw [World.gauge?_signal uncounted]
    exact gauged.shown scheme
  work world change gauged := ⟨gauged.balanced.work change, gauged.shown⟩
  use world operation gauged := gauged.use operation
  dispatched world handle source handled gauged :=
    ⟨gauged.balanced.dispatched handle source handled,
      fun scheme => (gauged.shown scheme).kept rfl⟩

end Gauged

/-- Whatever programs and handlers do, the gauge of a scheme shows the number of its routes unless
the scheme was unregistered and has had no routes since. -/
theorem gauge_accounted [Url.Names] (conduct : Conduct Handler Callback State) (options : Options)
    (own : State) (depth : Nat) (program : Program Handler Callback State α) (scheme : String) :
    let world := (program.run (conduct.application depth) (.fresh options ⟨own, []⟩)).2
    (world.gauge? scheme = none → world.registry.routes scheme = []) ∧
      ∀ count, world.gauge? scheme = some count →
        (count = (world.registry.routes scheme).length ∨
          world.registry.routes scheme = [] ∧ Outdated scheme count world.app.past) ∧
        ((∀ deed ∈ world.app.past, deed.unregisters scheme = false) →
          count = (world.registry.routes scheme).length) := by
  intro world
  have gauged : Gauged world :=
    Gauged.lasting.run (Gauged.lasting.keeps conduct depth) program _ (.fresh options own)
  have shown := gauged.shown scheme
  have length := gauged.balanced.length_routes scheme
  have nothing (empty : ledger scheme world.app.past = []) : world.registry.routes scheme = [] := by
    rw [empty] at length
    exact List.eq_nil_of_length_eq_zero length
  constructor
  · intro unset
    rw [unset] at shown
    exact nothing shown
  · intro count set
    rw [set] at shown
    rw [length]
    refine ⟨shown.imp_right (And.imp_left nothing), fun kept => ?_⟩
    refine shown.resolve_right fun ⟨_, outdated⟩ => ?_
    obtain ⟨deed, member, gone⟩ := outdated.exists_unregisters
    rw [kept deed member] at gone
    cases gone

/-- A scheme with one route is unregistered, and its gauge shows one route all the same. -/
theorem gauge_stale :
    let conduct : Conduct Unit Unit Unit := ⟨fun _ _ => .done true, fun _ _ _ _ => .done ()⟩
    let program : Program Unit Unit Unit Unit :=
      .use (.routerFor "app") fun _ => .use (.addPattern ⟨"app"⟩ "/a" 0 ()) fun _ =>
        .use (.unregister "app") fun _ => .done ()
    let world := (program.run (conduct.application 0) (.fresh {} ⟨(), []⟩)).2
    world.gauge? "app" = some 1 ∧ (world.registry.routes "app").length = 0 ∧
      world.hasScheme "app" = false := by
  intro conduct program world
  decide +kernel

end LinkRouting
