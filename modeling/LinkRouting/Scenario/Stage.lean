import LinkRouting.Router.Program
import LinkRouting.Scenario.Script

namespace LinkRouting.Scenario

/-- What a step came to. -/
inductive Result where
  | nothing
  | flag (value : Bool)
  | description (text : String)
  | routes (routes : List String)
  | options (options : Options)
  | router (handle : Handle) (routes : List String)
  | route (route : Route Bound)
  | table (routes : List (String × List (String × String))) (options : Options)
      (description : String)
  | refused (error : PatternError)
  | added (added routes : List String)
  | notAdded (error : PatternError) (routes : List String)
  | removed (found : Bool) (routes : List String)
  | panicked (message : String)
  | noRouter (name : String)
  | noRoute (name : String)
  | noHandler

/-- The result of a step, and the span in which its signals were given. -/
structure Report where
  span : Nat
  result : Result

/-- What a handler or a callback was called with, and what the steps of its own came to. -/
inductive Call where
  | handler (name : String) (params : Params) (accepted : Bool) (steps : Option (List Report))
  | target (name : String) (params : Params) (accepted : Bool)
  | built (name id : String) (accepted : Bool)
  | unmatched (name scheme url : String) (params : Params) (steps : Option (List Report))

structure Target where
  number : Nat
  needs : Option String
deriving DecidableEq, Repr

structure Stage where
  /-- The calls noted so far and their spans, the latest first. -/
  calls : List (Nat × Call) := []
  routers : Dictionary Handle := .empty
  routes : Dictionary (Route Bound) := .empty
  targets : Dictionary Target := .empty
  nextTarget : Nat := 0
  span : Nat := 0
  /-- The next span that was not opened yet. -/
  nextSpan : Nat := 1

namespace Stage

/-- The calls noted in one span, the earliest first. -/
def callsOf (stage : Stage) (span : Nat) : List Call :=
  ((stage.calls.filter fun call => call.1 = span).map (·.2)).reverse

/-- Casts a part with the target that has its name now. -/
def cast (stage : Stage) : Part → Bound
  | .weak name => ⟨.weak name, (stage.targets.get? name).map (·.number)⟩
  | part => ⟨part, none⟩

/-- The target called `name` if it still is the one numbered `number`. -/
def target? (stage : Stage) (name : String) (number : Option Nat) : Option Target :=
  (stage.targets.get? name).filter fun target => number = some target.number

def nameRouter (stage : Stage) (name : Option String) (handle : Handle) : Stage :=
  match name with
  | none => stage
  | some name => { stage with routers := stage.routers.insert name handle }

def nameRoute (stage : Stage) (name : Option String) (route : Route Bound) : Stage :=
  match name with
  | none => stage
  | some name => { stage with routes := stage.routes.insert name route }

def makeTarget (stage : Stage) (name : String) (needs : Option String) : Stage :=
  { stage with
    targets := stage.targets.insert name ⟨stage.nextTarget, needs⟩
    nextTarget := stage.nextTarget + 1 }

/-- Notes a call in the current span. -/
def note (stage : Stage) (call : Call) : Stage :=
  { stage with calls := (stage.span, call) :: stage.calls }

end Stage

abbrev StageWorld := StoryWorld Bound Callback Stage

/-- The signals given in one span, of those given since `current` was entered. -/
def signalsIn (span current : Nat) : List Signal → List Signal
  | [] => []
  | .logged (.entered part) :: rest => signalsIn span part rest
  | signal :: rest =>
      if current = span then signal :: signalsIn span current rest
      else signalsIn span current rest

/-- The signals given in one span, the earliest first.  It is the first that all begins with. -/
def signalsOf (world : StageWorld) (span : Nat) : List Signal :=
  signalsIn span 0 world.journal.reverse

end LinkRouting.Scenario
