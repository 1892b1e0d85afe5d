import LinkRouting.Proofs.Dictionary
import LinkRouting.Router.Dispatch

namespace LinkRouting

variable {Handler Callback State : Type}

namespace Registry

variable {registry : Registry Handler Callback} {scheme other : String}
  {change : Entry Handler Callback → Entry Handler Callback}

theorem entry_fresh (options : Options) :
    (fresh options : Registry Handler Callback).entry other = {} := by
  simp only [entry, fresh, Dictionary.get?_insert, Dictionary.get?_empty]
  split <;> rfl

theorem entry_update : (registry.update scheme change).entry other =
    if other = scheme then change (registry.entry scheme) else registry.entry other := by
  simp only [entry, update, Dictionary.get?_insert]
  split <;> rfl

theorem get?_update : (registry.update scheme change).table.get? other =
    if other = scheme then some (change (registry.entry scheme))
    else registry.table.get? other :=
  Dictionary.get?_insert

/-- A change that keeps an empty entry empty may as well be made where there is none. -/
theorem entry_adjust (nothing : change {} = {}) : (registry.adjust scheme change).entry other =
    if other = scheme then change (registry.entry scheme) else registry.entry other := by
  unfold adjust
  split
  · exact entry_update
  · rename_i absent
    split
    · rename_i same
      have missing : registry.table.get? scheme = none := by
        simpa [has, Dictionary.contains] using absent
      simp [same, entry, missing, nothing]
    · rfl

/-- What a change keeps of an entry it keeps of every entry. -/
theorem update_keeps {Part : Type} (part : Entry Handler Callback → Part)
    (kept : ∀ entry, part (change entry) = part entry) :
    part ((registry.update scheme change).entry other) = part (registry.entry other) := by
  rw [entry_update]
  split
  · rename_i same
    rw [kept, same]
  · rfl

theorem entry_ensure : (registry.ensure scheme).entry other = registry.entry other :=
  update_keeps id fun _ => rfl

theorem entry_dropScheme : (registry.dropScheme scheme).entry other =
    if other = scheme then {} else registry.entry other := by
  unfold dropScheme
  split
  · simp only [entry, Dictionary.get?_insert]
    split <;> rfl
  · simp only [entry, Dictionary.get?_erase]
    split <;> rfl

theorem routes_congr {sibling : Registry Handler Callback} (same : registry.table = sibling.table)
    (scheme : String) : registry.routes scheme = sibling.routes scheme := by
  rw [routes, routes, entry, entry, same]

theorem routes_addRoute {route : Route Handler} : (registry.addRoute scheme route).routes other =
    if other = scheme then
      insertDescending Route.priority { route with scheme } (registry.routes scheme)
    else registry.routes other := by
  simp only [routes, addRoute, entry_update]
  split <;> rfl

theorem routes_removeFirst {wanted : Route Handler → Bool} :
    (registry.removeFirst scheme wanted).routes other =
      if other = scheme then (registry.routes scheme).eraseP wanted
      else registry.routes other := by
  unfold routes removeFirst
  rw [entry_adjust]
  · split <;> rfl
  · rfl

/-- The routes of an entry of the table are those of its scheme. -/
theorem routes_of_mem {key : String} {entry : Entry Handler Callback}
    (member : (key, entry) ∈ registry.table.entries) : registry.routes key = entry.routes := by
  have found := Dictionary.get?_of_mem member
  simp only [routes, Registry.entry, found, Option.getD_some]

theorem has_of_mem_routes {route : Route Handler} (member : route ∈ registry.routes scheme) :
    registry.has scheme = true := by
  cases found : registry.table.get? scheme with
  | none => simp [routes, entry, found] at member
  | some entry => simp [has, Dictionary.contains, found]

theorem has_update : (registry.update scheme change).has other = true ↔
    other = scheme ∨ registry.has other = true := by
  rw [has, Dictionary.contains, get?_update]
  split
  · rename_i same
    simp [same]
  · rename_i foreign
    simp [foreign, has, Dictionary.contains]

end Registry

namespace World

variable {world : World Handler Callback State} {handle : Handle} {scheme : String}

theorem routes_routerFor (name : String) :
    (world.routerFor name).2.registry.routes scheme = world.registry.routes scheme :=
  congrArg Entry.routes Registry.entry_ensure

theorem get?_routerFor (name : String) : (world.routerFor name).2.registry.table.get? scheme =
    if scheme = name.toLower then some (world.registry.entry name.toLower)
    else world.registry.table.get? scheme :=
  Registry.get?_update

theorem entry_routerFor (name : String) :
    (world.routerFor name).2.registry.entry scheme = world.registry.entry scheme :=
  Registry.entry_ensure

theorem get?_setFallback (enabled : Bool) :
    (world.setFallback handle enabled).registry.table.get? scheme =
      if scheme = handle.scheme then
        some { world.registry.entry handle.scheme with fallback := enabled }
      else world.registry.table.get? scheme :=
  Registry.get?_update

theorem routes_unregister (name : String) : (world.unregister name).registry.routes scheme =
    if scheme = (Handle.ofName name).scheme then [] else world.registry.routes scheme := by
  have dropped : (world.unregister name).registry.routes scheme =
      ((world.registry.dropScheme (Handle.ofName name).scheme).entry scheme).routes := rfl
  rw [dropped, Registry.entry_dropScheme]
  split <;> rfl

theorem routes_unregisterAll : world.unregisterAll.registry.routes scheme = [] :=
  congrArg Entry.routes (Registry.entry_fresh world.registry.options)

theorem routes_removeAll : (world.removeAll handle).registry.routes scheme =
    if scheme = handle.scheme then [] else world.registry.routes scheme := by
  unfold removeAll measure signal amend Registry.routes
  dsimp only
  rw [Registry.entry_adjust]
  · split <;> rfl
  · rfl

theorem routes_setFallback (enabled : Bool) :
    (world.setFallback handle enabled).registry.routes scheme = world.registry.routes scheme :=
  Registry.update_keeps Entry.routes fun _ => rfl

theorem routes_setUnmatched (callback : Callback) :
    (world.setUnmatched handle callback).registry.routes scheme = world.registry.routes scheme :=
  Registry.update_keeps Entry.routes fun _ => rfl

theorem routes_clearUnmatched :
    (world.clearUnmatched handle).registry.routes scheme = world.registry.routes scheme := by
  unfold clearUnmatched amend Registry.routes
  dsimp only
  rw [Registry.entry_adjust]
  · split
    · rename_i same
      rw [same]
    · rfl
  · rfl

theorem registry_canRoute [Url.Names] (source : String) (params : Params) :
    (world.canRoute handle source params).2.registry = world.registry := by
  unfold canRoute
  split
  · rfl
  · dsimp only
    split
    · rfl
    · split <;> rfl

theorem addPattern_snd (pattern : String) (priority : Nat) (handler : Handler) :
    (world.addPattern handle pattern priority handler).2 =
      (world.addAll handle
        (Route.ofPattern pattern priority (some handler)).toOption.toList).2 := by
  unfold addPattern
  cases Route.ofPattern pattern priority (some handler) <;> rfl

theorem addPatterns_snd (patterns : List String) (handler : Handler) :
    (world.addPatterns handle patterns handler).2 =
      (world.addAll handle ((patterns.mapM fun pattern =>
        Route.ofPattern pattern 0 (some handler)).toOption.getD [])).2 := by
  unfold addPatterns
  cases patterns.mapM fun pattern => Route.ofPattern pattern 0 (some handler) <;> rfl

theorem addAll_fst (added : List (Route Handler)) : (world.addAll handle added).1 =
    added.map fun route => { route with scheme := handle.scheme } := by
  induction added generalizing world with
  | nil => rfl
  | cons route rest ih => simp [addAll, addRoute, ih]

theorem addPattern_fst (pattern : String) (priority : Nat) (handler : Handler) :
    (world.addPattern handle pattern priority handler).1 =
      (Route.ofPattern pattern priority (some handler)).map fun route =>
        { route with scheme := handle.scheme } := by
  unfold addPattern
  cases Route.ofPattern pattern priority (some handler) <;> rfl

theorem addPatterns_fst (patterns : List String) (handler : Handler) :
    (world.addPatterns handle patterns handler).1 =
      (patterns.mapM fun pattern => Route.ofPattern pattern 0 (some handler)).map fun routes =>
        routes.map fun route => { route with scheme := handle.scheme } := by
  unfold addPatterns
  cases patterns.mapM fun pattern => Route.ofPattern pattern 0 (some handler) with
  | error error => rfl
  | ok routes => exact congrArg Except.ok (addAll_fst routes)

theorem routes_addAll (added : List (Route Handler)) :
    (world.addAll handle added).2.registry.routes scheme =
      if scheme = handle.scheme then
        (added.map fun route => { route with scheme }).foldl
          (fun routes route => insertDescending Route.priority route routes)
          (world.registry.routes scheme)
      else world.registry.routes scheme := by
  induction added generalizing world with
  | nil => exact (ite_self _).symm
  | cons route rest ih =>
      have first : (world.addRoute handle route).2.registry.routes scheme =
          if scheme = handle.scheme then
            insertDescending Route.priority { route with scheme := handle.scheme }
              (world.registry.routes handle.scheme)
          else world.registry.routes scheme := Registry.routes_addRoute
      simp only [addAll, ih, first]
      split
      · rename_i same
        rw [same]
        rfl
      · rfl

theorem options_addAll (added : List (Route Handler)) :
    (world.addAll handle added).2.registry.options = world.registry.options := by
  induction added generalizing world with
  | nil => rfl
  | cons route rest ih => exact ih

/-- Nothing of an entry that is there changes but its routes. -/
theorem get?_addAll {entry : Entry Handler Callback}
    (present : world.registry.table.get? handle.scheme = some entry)
    (added : List (Route Handler)) :
    (world.addAll handle added).2.registry.table.get? scheme =
      if scheme = handle.scheme then
        some { entry with
          routes := (added.map fun route => { route with scheme := handle.scheme }).foldl
            (fun routes route => insertDescending Route.priority route routes) entry.routes }
      else world.registry.table.get? scheme := by
  induction added generalizing world entry with
  | nil =>
      split
      · rename_i same
        exact same ▸ present
      · rfl
  | cons route rest ih =>
      have first (other : String) : (world.addRoute handle route).2.registry.table.get? other =
          if other = handle.scheme then
            some { entry with
              routes := insertDescending Route.priority
                { route with scheme := handle.scheme } entry.routes }
          else world.registry.table.get? other := by
        have stored : world.registry.entry handle.scheme = entry := by
          rw [Registry.entry, present, Option.getD_some]
        exact Registry.get?_update.trans (by rw [stored])
      refine (ih ((first handle.scheme).trans (if_pos rfl))).trans ?_
      rw [first]
      split <;> rfl

theorem routes_addPattern (pattern : String) (priority : Nat) (handler : Handler) :
    (world.addPattern handle pattern priority handler).2.registry.routes scheme =
      if scheme = handle.scheme then
        ((Route.ofPattern pattern priority (some handler)).toOption.toList.map fun route =>
          { route with scheme }).foldl
          (fun routes route => insertDescending Route.priority route routes)
          (world.registry.routes scheme)
      else world.registry.routes scheme := by
  rw [addPattern_snd, routes_addAll]

theorem routes_addPatterns (patterns : List String) (handler : Handler) :
    (world.addPatterns handle patterns handler).2.registry.routes scheme =
      if scheme = handle.scheme then
        (((patterns.mapM fun pattern =>
          Route.ofPattern pattern 0 (some handler)).toOption.getD []).map fun route =>
          { route with scheme }).foldl
          (fun routes route => insertDescending Route.priority route routes)
          (world.registry.routes scheme)
      else world.registry.routes scheme := by
  rw [addPatterns_snd, routes_addAll]

/-- Whether a route was removed is whether one was wanted, and the first of those is the one. -/
theorem removeFirst_fst (wanted : Route Handler → Bool) :
    (world.removeFirst handle wanted).1 = (world.registry.routes handle.scheme).any wanted := by
  unfold removeFirst
  split
  · rename_i absent
    exact (List.any_eq_false.mpr (List.find?_eq_none.mp absent)).symm
  · rename_i route found
    exact (List.any_eq_true.mpr
      ⟨route, List.mem_of_find?_eq_some found, List.find?_some found⟩).symm

theorem routes_removeFirst (wanted : Route Handler → Bool) :
    (world.removeFirst handle wanted).2.registry.routes scheme =
      if scheme = handle.scheme then (world.registry.routes scheme).eraseP wanted
      else world.registry.routes scheme := by
  by_cases same : scheme = handle.scheme
  · unfold removeFirst
    rw [if_pos same, same]
    split
    · rename_i absent
      rw [List.eraseP_of_forall_not (List.find?_eq_none.mp absent)]
    · exact Registry.routes_removeFirst.trans (if_pos rfl)
  · unfold removeFirst
    rw [if_neg same]
    split
    · rfl
    · exact Registry.routes_removeFirst.trans (if_neg same)

end World

end LinkRouting
