namespace LinkRouting

inductive Halt where
  /-- A handler gave up. -/
  | panicked (message : String)
  /-- Handlers were nested deeper than allowed. -/
  | exhausted
deriving DecidableEq, Repr

inductive Outcome (α : Type) where
  | returned (value : α)
  | halted (cause : Halt)
deriving DecidableEq, Repr

/-- Actions change a state and either return a value or stop short of it.  What they have changed
until then stays changed. -/
def Action (State α : Type) : Type :=
  State → Outcome α × State

namespace Action

variable {State α β : Type}

protected def pure (value : α) : Action State α :=
  fun state => (.returned value, state)

protected def bind (first : Action State α) (next : α → Action State β) : Action State β :=
  fun state =>
    match first state with
    | (.returned value, later) => next value later
    | (.halted cause, later) => (.halted cause, later)

instance : Monad (Action State) where
  pure := Action.pure
  bind := Action.bind

def get : Action State State :=
  fun state => (.returned state, state)

def modify (change : State → State) : Action State Unit :=
  fun state => (.returned (), change state)

/-- Runs a function that gives a value and a new state. -/
def step (run : State → α × State) : Action State α :=
  fun state => (.returned (run state).1, (run state).2)

def halt (cause : Halt) : Action State α :=
  fun state => (.halted cause, state)

/-- Runs `action` and catches it when a handler gives up. -/
def guarded (action : Action State α) : Action State (Except String α) :=
  fun state =>
    match action state with
    | (.returned value, later) => (.returned (.ok value), later)
    | (.halted (.panicked message), later) => (.returned (.error message), later)
    | (.halted .exhausted, later) => (.halted .exhausted, later)

theorem pure_apply (value : α) (state : State) :
    (pure value : Action State α) state = (.returned value, state) :=
  rfl

theorem bind_apply (first : Action State α) (next : α → Action State β) (state : State) :
    (first >>= next) state =
      match first state with
      | (.returned value, later) => next value later
      | (.halted cause, later) => (.halted cause, later) :=
  rfl

end Action

end LinkRouting
