import LinkRouting.Proofs.Config.Reach
import LinkRouting.Proofs.Dispatch.Query

namespace LinkRouting

namespace World

variable {Handler Callback State : Type} {world : World Handler Callback State} {handle : Handle}
  {source key : String} {given : Params}

/-- The first route that a router has for a URL, with what it has for its handler. -/
def firstOffer? [Url.Names] (world : World Handler Callback State) (handle : Handle)
    (source : String) (given : Params) : Option (Route Handler × Params) :=
  match Url.parse source with
  | .error _ => none
  | .ok url => (offers (world.request source url given) (world.reach handle)).head?

theorem firstOffer?_of_ok [Url.Names] {url : Url} (parsed : Url.parse source = .ok url) :
    world.firstOffer? handle source given =
      (offers (world.request source url given) (world.reach handle)).head? := by
  rw [firstOffer?, parsed]

theorem canRoute_eq_isSome [Url.Names] :
    (world.canRoute handle source given).1 = (world.firstOffer? handle source given).isSome := by
  cases parsed : Url.parse source with
  | error error => rw [canRoute_of_error parsed, firstOffer?, parsed]; rfl
  | ok url =>
      rw [canRoute_of_ok parsed, firstOffer?_of_ok parsed]
      cases offers (world.request source url given) (world.reach handle) <;> rfl

theorem has_setUnmatched (callback : Callback) :
    (world.setUnmatched handle callback).registry.has key = true ↔
      key = handle.scheme ∨ world.registry.has key = true :=
  Registry.has_update

/-- Only the router of a URL is given a callback, and it stays the router of that URL. -/
theorem handleFor_setUnmatched [Url.Names] (callback : Callback) :
    (world.setUnmatched (world.registry.handleFor source) callback).registry.handleFor source =
      world.registry.handleFor source := by
  cases parsed : Url.parse source with
  | error error => simp only [Registry.handleFor, parsed]
  | ok url =>
      rw [Registry.handleFor_of_ok parsed, Registry.handleFor_of_ok parsed]
      by_cases present : world.registry.has url.scheme.toLower = true
      · rw [if_pos present, if_pos ((has_setUnmatched callback).mpr (.inl rfl))]
      · rw [if_neg present]
        split
        · rename_i later
          rcases (has_setUnmatched callback).mp later with same | before
          · exact congrArg Handle.mk same
          · exact absurd before present
        · rfl

theorem fallsBack_setUnmatched (other : Handle) (callback : Callback) :
    (world.setUnmatched other callback).fallsBack handle = world.fallsBack handle :=
  congrArg (· && !handle.isGlobal) (Registry.update_keeps Entry.fallback fun _ => rfl)

theorem firstOffer?_setUnmatched [Url.Names] (other : Handle) (callback : Callback) :
    (world.setUnmatched other callback).firstOffer? handle source given =
      world.firstOffer? handle source given := by
  have routes (scheme : String) :
      ((world.setUnmatched other callback).registry.entry scheme).routes =
        (world.registry.entry scheme).routes := routes_setUnmatched callback
  unfold firstOffer? reach
  rw [fallsBack_setUnmatched, routes, Registry.routes, routes]
  rfl

end World

end LinkRouting
