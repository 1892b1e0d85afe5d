import LinkRouting.Proofs.Ranking
import LinkRouting.Proofs.Replay

namespace LinkRouting

/-! What has been done to a router accounts for what is registered in it.  The ledger of a scheme
lists the registrations that are live, in the order in which they were made, and is kept by the
operations alone.  However a program goes on, and whatever its handlers do meanwhile, the routes
of every scheme are the stable sort of its ledger.
-/

variable {Handler Callback State α : Type}

/-- What an operation does to the registrations of one scheme. -/
inductive Turn (Handler : Type) where
  | keep
  | enter (added : List (Route Handler))
  | strike (wanted : Route Handler → Bool)
  | wipe

namespace Turn

def on (turn : Turn Handler) (handle : Handle) (scheme : String) : Turn Handler :=
  if scheme = handle.scheme then turn else .keep

/-- The live registrations after the turn.  Of those wanted, the first of the highest priority
is struck. -/
def onLedger (scheme : String) (live : List (Route Handler)) : Turn Handler → List (Route Handler)
  | .keep => live
  | .enter added => live ++ added.map fun route => { route with scheme }
  | .strike wanted => eraseLeading Route.priority wanted live
  | .wipe => []

def onRoutes (scheme : String) (routes : List (Route Handler)) :
    Turn Handler → List (Route Handler)
  | .keep => routes
  | .enter added =>
      (added.map fun route => { route with scheme }).foldl
        (fun routes route => insertDescending Route.priority route routes) routes
  | .strike wanted => routes.eraseP wanted
  | .wipe => []

variable {scheme : String} {live routes : List (Route Handler)} {turn : Turn Handler}

theorem ranked (before : Ranked Route.priority live routes) :
    Ranked Route.priority (turn.onLedger scheme live) (turn.onRoutes scheme routes) := by
  cases turn with
  | keep => exact before
  | enter added => exact before.foldl_insert _
  | strike wanted => exact before.eraseLeading
  | wipe => exact .nil

theorem onRoutes_on (handle : Handle) : (turn.on handle scheme).onRoutes scheme routes =
    if scheme = handle.scheme then turn.onRoutes scheme routes else routes := by
  unfold on
  split <;> rfl

/-- A turn that is made at all is made by the scheme of the handle. -/
theorem eq_of_on {handle : Handle} {made : Turn Handler} (taken : turn.on handle scheme = made)
    (moved : made ≠ .keep) : scheme = handle.scheme ∧ turn = made := by
  unfold on at taken
  split at taken
  · rename_i same
    exact ⟨same, taken⟩
  · exact absurd taken.symm moved

theorem scheme_of_mem_onLedger (stamped : ∀ route ∈ live, route.scheme = scheme) :
    ∀ route ∈ turn.onLedger scheme live, route.scheme = scheme := by
  intro route member
  cases turn with
  | keep => exact stamped route member
  | enter added =>
      rcases List.mem_append.mp member with old | new
      · exact stamped route old
      · obtain ⟨_, _, rfl⟩ := List.mem_map.mp new
        rfl
  | strike wanted => exact stamped route (List.mem_of_mem_eraseP member)
  | wipe => cases member

end Turn

/-- How many registrations an answer tells of. -/
def Answer.registered : Answer Handler → Nat
  | .route _ => 1
  | .added (.ok _) => 1
  | .addedAll (.ok stored) => stored.length
  | .set (.ok _) => 1
  | _ => 0

namespace Operation

/-- The turn of a scheme.  Patterns that do not compile register nothing. -/
def turn (scheme : String) : Operation Handler Callback → Turn Handler
  | .unregister name => Turn.wipe.on (.ofName name) scheme
  | .unregisterAll => .wipe
  | .addRoute handle route => (Turn.enter [route]).on handle scheme
  | .addPattern handle pattern priority handler =>
      let compiled := Route.ofPattern pattern priority (some handler)
      (Turn.enter compiled.toOption.toList).on handle scheme
  | .addPatterns handle patterns handler =>
      let compiled := patterns.mapM fun pattern => Route.ofPattern pattern 0 (some handler)
      (Turn.enter (compiled.toOption.getD [])).on handle scheme
  | .setRoute handle pattern (some handler) =>
      (Turn.enter (Route.ofPattern pattern 0 (some handler)).toOption.toList).on handle scheme
  | .setRoute handle pattern none =>
      (Turn.strike fun route => route.pattern = pattern).on handle scheme
  | .removeRoute handle route =>
      (Turn.strike (Registry.sameRoute handle.scheme route)).on handle scheme
  | .removePattern handle pattern =>
      (Turn.strike fun route => route.pattern = pattern).on handle scheme
  | .removeAll handle => Turn.wipe.on handle scheme
  | _ => .keep

/-- What is to be answered, as far as it depends on the live registrations of the schemes. -/
def answer? (live : String → List (Route Handler)) :
    Operation Handler Callback → Option (Answer Handler)
  | .addRoute handle route => some (.route { route with scheme := handle.scheme })
  | .addPattern handle pattern priority handler =>
      some (.added ((Route.ofPattern pattern priority (some handler)).map fun route =>
        { route with scheme := handle.scheme }))
  | .addPatterns handle patterns handler =>
      let compiled := patterns.mapM fun pattern => Route.ofPattern pattern 0 (some handler)
      some (.addedAll (compiled.map fun routes =>
        routes.map fun route => { route with scheme := handle.scheme }))
  | .setRoute _ pattern (some handler) =>
      some (.set ((Route.ofPattern pattern 0 (some handler)).map fun _ => ()))
  | .setRoute _ _ none => some (.set (.ok ()))
  | .removeRoute handle route =>
      some (.flag ((live handle.scheme).any (Registry.sameRoute handle.scheme route)))
  | .removePattern handle pattern =>
      some (.flag ((live handle.scheme).any fun route => route.pattern = pattern))
  | .routes handle =>
      some (.routes ((live handle.scheme).mergeSort fun a b => b.priority ≤ a.priority))
  | .containsRoute handle route =>
      some (.flag ((live handle.scheme).any (Registry.sameRoute handle.scheme route)))
  | _ => none

variable {world : World Handler Callback State} {operation : Operation Handler Callback}

/-- Every operation does to the routes of each scheme what its turn says. -/
theorem routes_perform [Url.Names] (scheme : String) :
    (operation.perform world).2.registry.routes scheme =
      (operation.turn scheme).onRoutes scheme (world.registry.routes scheme) := by
  cases operation with
  | routerFor name => exact World.routes_routerFor name
  | globalRouter => exact World.routes_routerFor globalScheme
  | unregister name =>
      rw [turn, Turn.onRoutes_on]
      exact World.routes_unregister name
  | unregisterAll => exact World.routes_unregisterAll
  | addRoute handle route =>
      rw [turn, Turn.onRoutes_on]
      exact World.routes_addAll [route]
  | addPattern handle pattern priority handler =>
      rw [turn, Turn.onRoutes_on]
      exact World.routes_addPattern pattern priority handler
  | addPatterns handle patterns handler =>
      rw [turn, Turn.onRoutes_on]
      exact World.routes_addPatterns patterns handler
  | setRoute handle pattern handler =>
      cases handler with
      | none =>
          rw [turn, Turn.onRoutes_on]
          exact World.routes_removeFirst _
      | some handler =>
          rw [turn, Turn.onRoutes_on]
          exact World.routes_addPattern pattern 0 handler
  | removeRoute handle route =>
      rw [turn, Turn.onRoutes_on]
      exact World.routes_removeFirst _
  | removePattern handle pattern =>
      rw [turn, Turn.onRoutes_on]
      exact World.routes_removeFirst _
  | removeAll handle =>
      rw [turn, Turn.onRoutes_on]
      exact World.routes_removeAll
  | setFallback handle enabled => exact World.routes_setFallback enabled
  | setUnmatched handle callback => exact World.routes_setUnmatched callback
  | clearUnmatched handle => exact World.routes_clearUnmatched
  | canRoute handle source params =>
      exact congrArg (Registry.routes · scheme) (World.registry_canRoute source params)
  | _ => rfl

/-- Operations answer what the live registrations demand. -/
theorem answer_perform [Url.Names] {live : String → List (Route Handler)} {answer : Answer Handler}
    (ranked : ∀ scheme, Ranked Route.priority (live scheme) (world.registry.routes scheme))
    (expected : operation.answer? live = some answer) :
    (operation.perform world).1 = answer := by
  have removal (handle : Handle) (wanted : Route Handler → Bool) :
      (world.removeFirst handle wanted).1 = (live handle.scheme).any wanted := by
    rw [World.removeFirst_fst, (ranked handle.scheme).any_eq]
  cases operation with
  | addRoute handle route =>
      cases expected
      rfl
  | addPattern handle pattern priority handler =>
      cases expected
      exact congrArg Answer.added (World.addPattern_fst pattern priority handler)
  | addPatterns handle patterns handler =>
      cases expected
      exact congrArg Answer.addedAll (World.addPatterns_fst patterns handler)
  | setRoute handle pattern handler =>
      cases handler with
      | none =>
          cases expected
          rfl
      | some handler =>
          cases expected
          refine congrArg Answer.set ?_
          change (world.addPattern handle pattern 0 handler).1.map (fun _ => ()) = _
          rw [World.addPattern_fst]
          cases Route.ofPattern pattern 0 (some handler) <;> rfl
  | removeRoute handle route =>
      cases expected
      exact congrArg Answer.flag (removal handle _)
  | removePattern handle pattern =>
      cases expected
      exact congrArg Answer.flag (removal handle _)
  | routes handle =>
      cases expected
      exact congrArg Answer.routes ((ranked handle.scheme).unique (ranked_mergeSort _ _))
  | containsRoute handle route =>
      cases expected
      exact congrArg Answer.flag (ranked handle.scheme).any_eq
  | _ => cases expected

/-- An operation that enters registrations is answered how many. -/
theorem answer_of_enter {scheme : String} {added : List (Route Handler)}
    (enters : operation.turn scheme = .enter added) (live : String → List (Route Handler)) :
    ∃ answer, operation.answer? live = some answer ∧ answer.registered = added.length := by
  have on {handle : Handle} {turn : Turn Handler} (taken : turn.on handle scheme = .enter added) :
      turn = .enter added := (Turn.eq_of_on taken nofun).2
  cases operation with
  | addRoute handle route =>
      cases on enters
      exact ⟨_, rfl, rfl⟩
  | addPattern handle pattern priority handler =>
      cases on enters
      refine ⟨_, rfl, ?_⟩
      cases Route.ofPattern pattern priority (some handler) <;> rfl
  | addPatterns handle patterns handler =>
      cases on enters
      refine ⟨_, rfl, ?_⟩
      cases patterns.mapM fun pattern => Route.ofPattern pattern 0 (some handler) with
      | error error => rfl
      | ok routes => exact List.length_map _
  | setRoute handle pattern handler =>
      cases handler with
      | none => cases on enters
      | some handler =>
          cases on enters
          refine ⟨_, rfl, ?_⟩
          cases Route.ofPattern pattern 0 (some handler) <;> rfl
  | unregister name => cases on enters
  | removeRoute handle route => cases on enters
  | removePattern handle pattern => cases on enters
  | removeAll handle => cases on enters
  | _ => cases enters

/-- An operation that strikes registrations is answered whether there was one, unless it is not
answered anything about it. -/
theorem answer_of_strike {scheme : String} {wanted : Route Handler → Bool}
    (strikes : operation.turn scheme = .strike wanted) (live : String → List (Route Handler)) :
    operation.answer? live = some (.flag ((live scheme).any wanted)) ∨
      operation.answer? live = some (.set (.ok ())) := by
  have on {handle : Handle} {turn : Turn Handler} (taken : turn.on handle scheme = .strike wanted) :
      scheme = handle.scheme ∧ turn = .strike wanted := Turn.eq_of_on taken nofun
  cases operation with
  | setRoute handle pattern handler =>
      cases handler with
      | none => exact .inr rfl
      | some handler => cases (on strikes).2
  | removeRoute handle route =>
      obtain ⟨rfl, same⟩ := on strikes
      cases same
      exact .inl rfl
  | removePattern handle pattern =>
      obtain ⟨rfl, same⟩ := on strikes
      cases same
      exact .inl rfl
  | unregister name => cases (on strikes).2
  | addRoute handle route => cases (on strikes).2
  | addPattern handle pattern priority handler => cases (on strikes).2
  | addPatterns handle patterns handler => cases (on strikes).2
  | removeAll handle => cases (on strikes).2
  | _ => cases strikes

end Operation

/-- The live registrations of a scheme in the order in which they were made, after deeds of which
the latest comes first. -/
def ledger (scheme : String) : List (Deed Handler Callback) → List (Route Handler)
  | [] => []
  | .used operation _ :: earlier => (operation.turn scheme).onLedger scheme (ledger scheme earlier)
  | .dispatched .. :: earlier => ledger scheme earlier

theorem scheme_of_mem_ledger {scheme : String} (past : List (Deed Handler Callback)) :
    ∀ route ∈ ledger scheme past, route.scheme = scheme := by
  induction past with
  | nil => simp [ledger]
  | cons deed earlier ih =>
      cases deed with
      | used operation answer => exact Turn.scheme_of_mem_onLedger ih
      | dispatched handle source handled => exact ih

/-- The routes, and the answers so far, are what the ledgers make them. -/
structure Balanced (world : StoryWorld Handler Callback State) : Prop where
  ranked : ∀ scheme,
    Ranked Route.priority (ledger scheme world.app.past) (world.registry.routes scheme)
  answered : ∀ operation answer earlier, .used operation answer :: earlier <:+ world.app.past →
    ∀ expected, operation.answer? (ledger · earlier) = some expected → answer = expected

namespace Balanced

variable {world : StoryWorld Handler Callback State}

theorem fresh (options : Options) (own : State) :
    Balanced (.fresh options ⟨own, []⟩ : StoryWorld Handler Callback State) where
  ranked scheme := by
    have empty : (Registry.fresh options : Registry Handler Callback).routes scheme = [] :=
      congrArg Entry.routes (Registry.entry_fresh options)
    change Ranked Route.priority [] ((Registry.fresh options).routes scheme)
    rw [empty]
    exact .nil
  answered operation answer earlier inside := by simp [World.fresh] at inside

theorem unheard : World.Unheard (@Balanced Handler Callback State) :=
  fun _ _ _ balanced => ⟨balanced.ranked, balanced.answered⟩

theorem work (balanced : Balanced world) (change : State → State) :
    Balanced (StoryWorld.work world change) :=
  ⟨balanced.ranked, balanced.answered⟩

theorem use [Url.Names] (balanced : Balanced world) (operation : Operation Handler Callback) :
    Balanced (StoryWorld.remember (operation.perform world).2
      (.used operation (operation.perform world).1)) where
  ranked scheme := by
    change Ranked Route.priority (ledger scheme (_ :: (operation.perform world).2.app.past))
      ((operation.perform world).2.registry.routes scheme)
    rw [Operation.routes_perform, Operation.app_perform]
    exact Turn.ranked (balanced.ranked scheme)
  answered := by
    intro used answer earlier inside expected fits
    change _ <:+ _ :: (operation.perform world).2.app.past at inside
    rw [Operation.app_perform] at inside
    rcases List.suffix_cons_iff.mp inside with latest | older
    · cases latest
      exact Operation.answer_perform balanced.ranked fits
    · exact balanced.answered used answer earlier older expected fits

theorem dispatched (balanced : Balanced world) (handle : Handle) (source : String)
    (handled : Except String Bool) :
    Balanced (StoryWorld.remember world (.dispatched handle source handled)) where
  ranked := balanced.ranked
  answered := by
    intro used answer earlier inside expected fits
    rcases List.suffix_cons_iff.mp inside with latest | older
    · cases latest
    · exact balanced.answered used answer earlier older expected fits

end Balanced

theorem Balanced.lasting [Url.Names] : StoryWorld.Lasting (@Balanced Handler Callback State) where
  unheard := unheard
  work _ change balanced := balanced.work change
  use _ operation balanced := balanced.use operation
  dispatched _ handle source handled balanced := balanced.dispatched handle source handled

theorem Program.run_balanced [Url.Names]
    {app : Application Handler Callback (Story Handler Callback State)}
    (keeps : app.Keeps Balanced) (program : Program Handler Callback State α) :
    Action.Preserves Balanced (program.run app) :=
  Balanced.lasting.run keeps program

theorem Conduct.keeps_balanced [Url.Names] (conduct : Conduct Handler Callback State)
    (depth : Nat) : (conduct.application depth).Keeps Balanced :=
  Balanced.lasting.keeps conduct depth

/-- The table and the answers so far, told by the ledgers. -/
structure Accounted (world : StoryWorld Handler Callback State) : Prop where
  sorted : ∀ scheme, world.registry.routes scheme =
    (ledger scheme world.app.past).mergeSort fun a b => b.priority ≤ a.priority
  /-- What is stored under a key of the table has that key for its scheme. -/
  keyed : ∀ key entry, (key, entry) ∈ world.registry.table.entries →
    ∀ route ∈ entry.routes, route.scheme = key
  answered : ∀ operation answer earlier, .used operation answer :: earlier <:+ world.app.past →
    ∀ expected, operation.answer? (ledger · earlier) = some expected → answer = expected
  /-- Registering adds as many registrations as it is said to have added. -/
  entered : ∀ operation answer earlier scheme added,
    .used operation answer :: earlier <:+ world.app.past →
    operation.turn scheme = .enter added →
    (ledger scheme (.used operation answer :: earlier)).length =
      (ledger scheme earlier).length + answer.registered
  /-- A removal takes away one registration if it is said to have succeeded, and else none. -/
  removed : ∀ operation success earlier scheme wanted,
    .used operation (.flag success) :: earlier <:+ world.app.past →
    operation.turn scheme = .strike wanted →
    (ledger scheme (.used operation (.flag success) :: earlier)).length + success.toNat =
      (ledger scheme earlier).length

theorem Balanced.accounted {world : StoryWorld Handler Callback State}
    (balanced : Balanced world) : Accounted world where
  sorted scheme := (balanced.ranked scheme).unique (ranked_mergeSort _ _)
  keyed key entry member route inside := by
    rw [← Registry.routes_of_mem member, (balanced.ranked key).mem_iff] at inside
    exact scheme_of_mem_ledger world.app.past route inside
  answered := balanced.answered
  entered operation answer earlier scheme added inside enters := by
    obtain ⟨expected, told, count⟩ := Operation.answer_of_enter enters (ledger · earlier)
    rw [balanced.answered operation answer earlier inside expected told, count, ledger, enters]
    exact List.length_append.trans (congrArg (_ + ·) (List.length_map _))
  removed operation success earlier scheme wanted inside strikes := by
    rcases Operation.answer_of_strike strikes (ledger · earlier) with told | told
    · have answer := balanced.answered operation _ earlier inside _ told
      cases answer
      rw [ledger, strikes]
      cases wish : (ledger scheme earlier).any wanted with
      | false => exact congrArg List.length (eraseLeading_of_not_any wish)
      | true => exact length_eraseLeading wish
    · cases balanced.answered operation _ earlier inside _ told

/-- Whatever programs and handlers do, to any depth and in any order, they find the routes of
every scheme to be its live registrations, stably sorted by descending priority. -/
theorem routes_accounted [Url.Names] (conduct : Conduct Handler Callback State) (options : Options)
    (own : State) (depth : Nat) (program : Program Handler Callback State α) :
    Accounted (program.run (conduct.application depth) (.fresh options ⟨own, []⟩)).2 :=
  (program.run_balanced (conduct.keeps_balanced depth) _ (.fresh options own)).accounted

end LinkRouting
