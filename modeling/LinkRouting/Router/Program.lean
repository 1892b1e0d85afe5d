import LinkRouting.Router.Operation

namespace LinkRouting

/-! Programs that use a router.  Handlers and callbacks are programs as well, so a dispatch may run
them, to any depth, on the very router that calls them.  Handles are plain values: a program can
use one of a scheme that is long gone.  What is done is kept in its order beside the state of
the application, which is all that a program has of its own.
-/

variable {Handler Callback State α β : Type}

/-- Something done to its end, and what came of it. -/
inductive Deed (Handler Callback : Type) where
  | used (operation : Operation Handler Callback) (answer : Answer Handler)
  | dispatched (handle : Handle) (source : String) (handled : Except String Bool)

structure Story (Handler Callback State : Type) where
  own : State
  /-- The deeds so far, the latest first. -/
  past : List (Deed Handler Callback)

/-- A program goes on by what it is answered, and may give up at any point.  It catches a dispatch
in which a handler gives up. -/
inductive Program (Handler Callback State α : Type) where
  | done (value : α)
  | panic (message : String)
  | work (change : State → State) (next : State → Program Handler Callback State α)
  | use (operation : Operation Handler Callback)
      (next : Answer Handler → Program Handler Callback State α)
  | dispatch (handle : Handle) (source : String) (params : Params)
      (next : Except String Bool → Program Handler Callback State α)

abbrev StoryWorld (Handler Callback State : Type) :=
  World Handler Callback (Story Handler Callback State)

namespace StoryWorld

def remember (world : StoryWorld Handler Callback State) (deed : Deed Handler Callback) :
    StoryWorld Handler Callback State :=
  { world with app := { world.app with past := deed :: world.app.past } }

def work (world : StoryWorld Handler Callback State) (change : State → State) :
    StoryWorld Handler Callback State :=
  { world with app := { world.app with own := change world.app.own } }

end StoryWorld

namespace Program

protected def bind (program : Program Handler Callback State α)
    (following : α → Program Handler Callback State β) : Program Handler Callback State β :=
  match program with
  | .done value => following value
  | .panic message => .panic message
  | .work change next => .work change fun own => (next own).bind following
  | .use operation next => .use operation fun answer => (next answer).bind following
  | .dispatch handle source params next =>
      .dispatch handle source params fun handled => (next handled).bind following

instance : Monad (Program Handler Callback State) where
  pure := .done
  bind := .bind

/-- Gives the message instead of giving up. -/
def caught : Program Handler Callback State α → Program Handler Callback State (Except String α)
  | .done value => .done (.ok value)
  | .panic message => .done (.error message)
  | .work change next => .work change fun own => (next own).caught
  | .use operation next => .use operation fun answer => (next answer).caught
  | .dispatch handle source params next =>
      .dispatch handle source params fun handled => (next handled).caught

def own : Program Handler Callback State State :=
  .work id .done

def change (change : State → State) : Program Handler Callback State Unit :=
  .work change fun _ => .done ()

def tell (operation : Operation Handler Callback) : Program Handler Callback State Unit :=
  .use operation fun _ => .done ()

/-- Performs an operation whose answer is of the kind that `read` takes. -/
def ask (operation : Operation Handler Callback) (read : Answer Handler → Option α) :
    Program Handler Callback State α :=
  .use operation fun answer =>
    match read answer with
    | some value => .done value
    | none => .panic "unexpected answer"

/-- Routes a URL, and gives up when a handler does. -/
def route (handle : Handle) (source : String) (params : Params) :
    Program Handler Callback State Bool :=
  .dispatch handle source params fun
    | .ok handled => .done handled
    | .error message => .panic message

end Program

/-- Runs a program, given what handlers and callbacks do. -/
def Program.run [Url.Names] (app : Application Handler Callback (Story Handler Callback State)) :
    Program Handler Callback State α → Action (StoryWorld Handler Callback State) α
  | .done value => pure value
  | .panic message => Action.halt (.panicked message)
  | .work change next => do
      Action.modify (StoryWorld.work · change)
      let world ← Action.get
      (next world.app.own).run app
  | .use operation next => do
      let answer ← Action.step operation.perform
      Action.modify (StoryWorld.remember · (.used operation answer))
      (next answer).run app
  | .dispatch handle source params next => do
      let handled ← Action.guarded (app.route handle source params)
      Action.modify (StoryWorld.remember · (.dispatched handle source handled))
      (next handled).run app

/-- The programs that handlers and callbacks run. -/
structure Conduct (Handler Callback State : Type) where
  handle : Handler → Params → Program Handler Callback State Bool
  unmatched : Callback → Handle → String → Params → Program Handler Callback State Unit

/-- What handlers and callbacks do while they are nested at most `depth` levels deep.  A run that
would go deeper is cut off there. -/
def Conduct.application [Url.Names] (conduct : Conduct Handler Callback State) :
    (depth : Nat) → Application Handler Callback (Story Handler Callback State)
  | 0 =>
      { handle := fun _ _ => Action.halt .exhausted
        unmatched := fun _ _ _ _ => Action.halt .exhausted }
  | depth + 1 =>
      { handle := fun handler params =>
          (conduct.handle handler params).run (conduct.application depth)
        unmatched := fun callback handle source params =>
          (conduct.unmatched callback handle source params).run (conduct.application depth) }

end LinkRouting
