import LinkRouting.Router.Registry

namespace LinkRouting.Scenario

mutual

/-- One use of the router.  Routers and routes are referred to by the names that earlier steps
gave them. -/
inductive Step where
  | bindScheme (scheme : String) (name : Option String)
  | bindGlobal (name : Option String)
  | bindForUrl (url : String) (name : Option String)
  | hasScheme (scheme : String)
  | unregister (scheme : String)
  | unregisterAll
  | dump
  | setOptions (options : Options)
  | setDecodePlus (enabled : Bool)
  | setHostAsComponent (enabled : Bool)
  /-- Without a router, the one of the URL's scheme. -/
  | route (router : Option String) (url : String) (params : Params)
  | canRoute (router : Option String) (url : String) (params : Params)
  | add (router pattern : String) (priority : Nat) (handler : Part) (name : Option String)
  | addPatterns (router : String) (patterns : List String) (handler : Part)
  /-- Adds nothing, for want of a handler. -/
  | addNothing (router : String)
  | define (pattern : String) (priority : Nat) (handler : Option Part) (name : Option String)
  | addRoute (router route : String) (name : Option String)
  | setRoute (router pattern : String) (handler : Option Part)
  | removeRoute (router route : String)
  | removePattern (router pattern : String)
  | removeAll (router : String)
  | routes (router : String)
  | contains (router route : String)
  | fallback (router : String)
  | setFallback (router : String) (enabled : Bool)
  | setUnmatched (router callback : String) (steps : Option (List Step))
  | clearUnmatched (router : String)
  | describe (route : String)
  | same (route other : String)
  | call (route : String) (params : Params)
  | makeTarget (name : String) (needs : Option String)
  | dropTarget (name : String)

inductive Part where
  /-- Takes its steps, notes the call and gives up or answers.  It accepts only parameters that
  hold what it needs. -/
  | scripted (name : String) (accepts : Bool) (needs : Option String) (steps : Option (List Step))
      (panic : Option String)
  | weak (target : String)
  /-- Is built from the parameter `id`. -/
  | built (name : String) (accepts : Bool)

end

instance : Inhabited Step := ⟨.dump⟩

instance : Inhabited Part := ⟨.weak ""⟩

/-- A part, and the target that was there when it was cast.  Targets are told apart by number,
since a name may be given to another target later. -/
structure Bound where
  part : Part
  target : Option Nat

structure Callback where
  name : String
  steps : Option (List Step)

end LinkRouting.Scenario
