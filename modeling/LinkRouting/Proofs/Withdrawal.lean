import LinkRouting.Proofs.Sameness

namespace LinkRouting

/-! Taking routes away.  What is removed is always the first route in the order of attempts that is
wanted, and since that order is a stable sort, it is the one that was registered first of those
wanted with the highest priority.
-/

variable {Handler Callback State α : Type}

section Lists

variable {key : α → Nat} {items sorted : List α} {wanted : α → Bool} {a : α}

/-- What is left of `items`, and of their stable sort, without `gone`.  Of `items` that is the first
that is `leading`, and of the sorted ones the first that is `wanted`. -/
structure Withdrawn (key : α → Nat) (leading wanted : α → Bool) (items sorted left : List α)
    (gone : α) : Prop where
  leads : leading gone = true
  wish : wanted gone = true
  earliest : ∃ before behind, items = before ++ gone :: behind ∧
    (∀ earlier ∈ before, leading earlier = false) ∧
    left = (before ++ behind).mergeSort fun a b => key b ≤ key a
  foremost : ∃ front back, sorted = front ++ gone :: back ∧
    (∀ sooner ∈ front, wanted sooner = false) ∧ left = front ++ back

theorem eraseP_of_find? (found : items.find? wanted = some a) :
    ∃ before behind, items = before ++ a :: behind ∧
      (∀ earlier ∈ before, wanted earlier = false) ∧ items.eraseP wanted = before ++ behind := by
  obtain ⟨here, before, behind, split, none⟩ := List.find?_eq_some_iff_append.mp found
  simp only [Bool.not_eq_true'] at none
  refine ⟨before, behind, split, none, ?_⟩
  rw [split, List.eraseP_append_right _ fun b member => by simp [none b member],
    List.eraseP_cons_of_pos here]

theorem Ranked.withdrawn (ranked : Ranked key items sorted) (found : sorted.any wanted = true) :
    ∃ gone, Withdrawn key (leads key wanted items) wanted items sorted (sorted.eraseP wanted)
      gone := by
  obtain ⟨some, member, want⟩ := List.any_eq_true.mp found
  cases first : sorted.find? wanted with
  | none => exact absurd want (List.find?_eq_none.mp first some member)
  | some gone =>
      have search := ranked.find?_eq.symm.trans first
      have sort : sorted.eraseP wanted = (items.eraseP (leads key wanted items)).mergeSort
          fun a b => key b ≤ key a := ranked.eraseLeading.unique (ranked_mergeSort key _)
      obtain ⟨before, behind, split, none, remaining⟩ := eraseP_of_find? search
      obtain ⟨front, back, cut, skipped, left⟩ := eraseP_of_find? first
      refine ⟨gone, ranked.leads_of_find? first, List.find?_some first,
        ⟨before, behind, split, none, ?_⟩, front, back, cut, skipped, left⟩
      rw [sort, remaining]

theorem eraseP_insertDescending (want : wanted a = true) (none : items.any wanted = false) :
    (insertDescending key a items).eraseP wanted = items := by
  induction items with
  | nil => simp [insertDescending, want]
  | cons b rest ih =>
      simp only [List.any_cons, Bool.or_eq_false_iff] at none
      simp only [insertDescending]
      split
      · exact List.eraseP_cons_of_pos want
      · rw [List.eraseP_cons_of_neg (by simp [none.1]), ih none.2]

theorem any_insertDescending (want : wanted a = true) :
    (insertDescending key a items).any wanted = true :=
  List.any_eq_true.mpr ⟨a, mem_insertDescending.mpr (.inl rfl), want⟩

theorem countP_eraseP (found : items.any wanted = true) :
    (items.eraseP wanted).countP wanted + 1 = items.countP wanted := by
  obtain ⟨a, member, want⟩ := List.any_eq_true.mp found
  obtain ⟨gone, before, behind, _, here, split, left⟩ := List.exists_of_eraseP member want
  rw [left, split, List.countP_append, List.countP_append, List.countP_cons_of_pos here]
  omega

theorem any_iff_countP_pos : items.any wanted = true ↔ 0 < items.countP wanted := by
  rw [List.any_eq_true, List.countP_pos_iff]

end Lists

/-- Routes that are alike have the same priority, so the first of them has the highest. -/
theorem Route.leads_alike (route : Route Handler) (live : List (Route Handler)) :
    leads Route.priority route.alike live = route.alike := by
  funext stored
  rw [Bool.eq_iff_iff, leads_iff]
  refine and_iff_left_of_imp fun alike other _ also => ?_
  simp only [Route.alike, Bool.and_eq_true, decide_eq_true_eq] at alike also
  rw [alike.2, also.2]

namespace World

variable {world : World Handler Callback State} {handle : Handle} {route : Route Handler}
  {live : List (Route Handler)} {wanted : Route Handler → Bool}

/-- The result of removing a route that is wanted: one is withdrawn and the registry is else the
same, or nothing has changed. -/
structure Removal (world : World Handler Callback State) (handle : Handle)
    (live : List (Route Handler)) (leading wanted : Route Handler → Bool)
    (result : Bool × World Handler Callback State) : Prop where
  found : result.1 = (world.routes handle).any wanted
  unchanged : result.1 = false → result.2 = world
  withdrawn : result.1 = true → ∃ gone, Withdrawn Route.priority leading wanted live
    (world.routes handle) (result.2.routes handle) gone
  elsewhere : result.1 = true → result.2.registry = world.registry.update handle.scheme
    fun entry => { entry with routes := result.2.routes handle }

theorem routes_removeFirst_own (wanted : Route Handler → Bool) :
    (world.removeFirst handle wanted).2.routes handle = (world.routes handle).eraseP wanted :=
  (routes_removeFirst wanted).trans (if_pos rfl)

theorem removeFirst_of_not_any (none : (world.routes handle).any wanted = false) :
    world.removeFirst handle wanted = (false, world) := by
  refine removeFirst_of_none fun stored member => ?_
  simpa using List.any_eq_false.mp none stored member

theorem registry_removeFirst (found : (world.routes handle).any wanted = true) :
    (world.removeFirst handle wanted).2.registry = world.registry.update handle.scheme
      fun entry => { entry with routes := entry.routes.eraseP wanted } := by
  obtain ⟨some, member, want⟩ := List.any_eq_true.mp found
  have present := Registry.has_of_mem_routes member
  cases first : (world.registry.routes handle.scheme).find? wanted with
  | none => exact absurd want (List.find?_eq_none.mp first some member)
  | some gone =>
      simp only [removeFirst, first, measureRoutes, measure, log, signal, amend,
        Registry.removeFirst, Registry.adjust, present, if_true]

theorem removal_removeFirst (ranked : Ranked Route.priority live (world.routes handle))
    (wanted : Route Handler → Bool) :
    world.Removal handle live (leads Route.priority wanted live) wanted
      (world.removeFirst handle wanted) where
  found := removeFirst_fst wanted
  unchanged := by
    intro missed
    rw [removeFirst_of_not_any ((removeFirst_fst wanted).symm.trans missed)]
  withdrawn := by
    intro found
    rw [routes_removeFirst_own]
    exact ranked.withdrawn ((removeFirst_fst wanted).symm.trans found)
  elsewhere := by
    intro found
    rw [registry_removeFirst ((removeFirst_fst wanted).symm.trans found), routes_removeFirst_own]
    rfl

/-- Removes a route again and again, and tells each time whether there was one. -/
def removeTimes (world : World Handler Callback State) (handle : Handle)
    (route : Route Handler) : Nat → List Bool × World Handler Callback State
  | 0 => ([], world)
  | times + 1 =>
      let removed := world.removeRoute handle route
      let others := removed.2.removeTimes handle route times
      (removed.1 :: others.1, others.2)

theorem routes_addRoute_own (world : World Handler Callback State) (handle : Handle)
    (route : Route Handler) :
    (world.addRoute handle route).2.routes handle =
      insertDescending Route.priority { route with scheme := handle.scheme }
        (world.routes handle) :=
  Registry.routes_addRoute.trans (if_pos rfl)

namespace Stamped

variable (stamped : world.Stamped handle)

include stamped

theorem removeFirst (wanted : Route Handler → Bool) :
    (world.removeFirst handle wanted).2.Stamped handle := by
  intro stored member
  have kept : stored ∈ (world.routes handle).eraseP wanted := routes_removeFirst_own wanted ▸ member
  exact stamped stored (List.mem_of_mem_eraseP kept)

theorem addRoute (route : Route Handler) : (world.addRoute handle route).2.Stamped handle := by
  intro stored member
  change stored ∈ (world.addRoute handle route).2.routes handle at member
  rw [routes_addRoute_own, mem_insertDescending] at member
  rcases member with rfl | old
  · rfl
  · exact stamped stored old

section Pertaining

variable (pertains : route.PertainsTo handle)

include pertains

theorem removeRoute_of_pertains :
    world.removeRoute handle route = world.removeFirst handle route.alike :=
  (stamped.removeRoute_eq route).trans (if_pos pertains)

theorem removeTimes_of_none (none : (world.routes handle).any route.alike = false)
    (times : Nat) :
    world.removeTimes handle route times = (List.replicate times false, world) := by
  induction times with
  | zero => rfl
  | succ times ih =>
      simp only [removeTimes, stamped.removeRoute_of_pertains pertains,
        removeFirst_of_not_any none, ih, List.replicate_succ]

/-- A route is removed as often as routes that are alike are stored. -/
theorem removeTimes_add {count : Nat} (stored : (world.routes handle).countP route.alike = count)
    (times : Nat) : world.removeTimes handle route (count + times) =
      (List.replicate count true ++ List.replicate times false,
        (world.removeTimes handle route count).2) := by
  induction count generalizing world with
  | zero =>
      have none : (world.routes handle).any route.alike = false := by
        rw [Bool.eq_false_iff, ne_eq, any_iff_countP_pos]
        omega
      rw [Nat.zero_add]
      exact stamped.removeTimes_of_none pertains none times
  | succ count ih =>
      have found : (world.routes handle).any route.alike = true := by
        rw [any_iff_countP_pos]
        omega
      have fewer : ((world.removeFirst handle route.alike).2.routes handle).countP route.alike =
          count := by
        have less := countP_eraseP found
        rw [routes_removeFirst_own]
        omega
      have removed : (world.removeFirst handle route.alike).1 = true :=
        (removeFirst_fst _).trans found
      rw [Nat.add_right_comm]
      simp only [removeTimes, stamped.removeRoute_of_pertains pertains, removed,
        ih (stamped.removeFirst _) fewer, List.replicate_succ, List.cons_append]

omit pertains in
/-- Unless routes that are alike are stored, removing a route undoes that it was added. -/
theorem removeRoute_addRoute (none : (world.routes handle).any route.alike = false) :
    let added := world.addRoute handle route
    let back := added.2.removeRoute handle added.1
    back.1 = true ∧ back.2.routes handle = world.routes handle := by
  intro added back
  have same : back = added.2.removeFirst handle route.alike :=
    (stamped.addRoute route).removeRoute_of_pertains (.inr rfl)
  have own : route.alike { route with scheme := handle.scheme } = true := by simp [Route.alike]
  rw [same, removeFirst_fst, routes_removeFirst_own]
  have routes := routes_addRoute_own world handle route
  refine ⟨?_, ?_⟩
  · exact (congrArg (List.any · route.alike) routes).trans (any_insertDescending own)
  · rw [routes, eraseP_insertDescending own none]

end Pertaining

end Stamped

end World

/-- How a router finds, removes and adds routes.  Of those alike, the one registered first is
removed, and of those with a pattern, the first one of the highest priority. -/
structure Coherent (world : StoryWorld Handler Callback State) (handle : Handle) : Prop where
  contained : ∀ route : Route Handler, route.PertainsTo handle →
    (world.containsRoute handle route = true ↔ (world.removeRoute handle route).1 = true)
  removed : ∀ route : Route Handler, route.PertainsTo handle →
    world.Removal handle (ledger handle.scheme world.app.past) route.alike route.alike
      (world.removeRoute handle route)
  repeated : ∀ route : Route Handler, route.PertainsTo handle → ∀ times,
    let count := (world.routes handle).countP route.alike
    world.removeTimes handle route (count + times) =
      (List.replicate count true ++ List.replicate times false,
        (world.removeTimes handle route count).2)
  restored : ∀ route : Route Handler, route.PertainsTo handle →
    (world.routes handle).any route.alike = false →
    let added := world.addRoute handle route
    let back := added.2.removeRoute handle added.1
    back.1 = true ∧ back.2.routes handle = world.routes handle
  patterned : ∀ pattern : String,
    let live := ledger handle.scheme world.app.past
    let wanted (route : Route Handler) : Bool := route.pattern = pattern
    world.Removal handle live (leads Route.priority wanted live) wanted
      (world.removePattern handle pattern)

theorem Balanced.coherent {world : StoryWorld Handler Callback State} (balanced : Balanced world)
    (handle : Handle) : Coherent world handle where
  contained route pertains := by
    have stamped := balanced.stamped handle
    rw [stamped.containsRoute_eq, stamped.removeRoute_of_pertains pertains, World.removeFirst_fst]
    simp [pertains, World.routes]
  removed route pertains := by
    have removal := World.removal_removeFirst (balanced.ranked handle.scheme) route.alike
    rwa [route.leads_alike, ← (balanced.stamped handle).removeRoute_of_pertains pertains] at removal
  repeated route pertains := (balanced.stamped handle).removeTimes_add pertains rfl
  restored route _ none := (balanced.stamped handle).removeRoute_addRoute none
  patterned pattern := World.removal_removeFirst (balanced.ranked handle.scheme) _

/-- Whatever programs and handlers have done, the routers find, remove and add routes coherently. -/
theorem routes_coherent [Url.Names] (conduct : Conduct Handler Callback State) (options : Options)
    (own : State) (depth : Nat) (program : Program Handler Callback State α) (handle : Handle) :
    Coherent (program.run (conduct.application depth) (.fresh options ⟨own, []⟩)).2 handle :=
  (program.run_balanced (conduct.keeps_balanced depth) _ (.fresh options own)).coherent handle

end LinkRouting
