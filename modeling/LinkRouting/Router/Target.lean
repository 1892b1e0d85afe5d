import LinkRouting.Log.Event
import LinkRouting.Params

namespace LinkRouting

variable {m : Type → Type} [Monad m] {α : Type}

/-- Forwards to the target that `find` gives at the time of the call, and declines when it is
gone. -/
def forwardTo (log : Log.Event → m Unit) (find : m (Option α)) (forward : α → Params → m Bool)
    (params : Params) : m Bool := do
  match ← find with
  | some target => forward target params
  | none => do
      log (.targetDropped (params.pattern?.getD ""))
      pure false

/-- Hands what `build` makes of the parameters to `complete`, and declines when it makes
nothing. -/
def buildFrom (build : Params → Option α) (complete : α → m Bool) (params : Params) : m Bool :=
  match build params with
  | some built => complete built
  | none => pure false

end LinkRouting
