import LinkRouting.Proofs.Dispatch.Phases

namespace LinkRouting

namespace Action

variable {Context α β : Type} {before broken : Context → Prop} {action : Action Context α}
  {after : α → Context → Prop}

/-- An action has ended in `after`, or a handler has given up and left `broken`.  Nothing is said of
an action that is cut off. -/
def Ended (after : α → Context → Prop) (broken : Context → Prop) : Outcome α × Context → Prop
  | (.returned value, later) => after value later
  | (.halted (.panicked _), later) => broken later
  | (.halted .exhausted, _) => True

theorem Ended.mono {last : α → Context → Prop} {left : Context → Prop}
    {result : Outcome α × Context} (ended : Ended after broken result)
    (returned : ∀ value state, after value state → last value state)
    (gaveUp : ∀ state, broken state → left state) : Ended last left result := by
  obtain ⟨outcome, later⟩ := result
  cases outcome with
  | returned value => exact returned value later ended
  | halted cause =>
      cases cause with
      | panicked message => exact gaveUp later ended
      | exhausted => trivial

theorem Ended.whole {holds : Context → Prop} {result : Outcome α × Context}
    (ended : Ended (fun _ => holds) holds result) (uncut : result.1 ≠ .halted .exhausted) :
    holds result.2 := by
  obtain ⟨outcome, later⟩ := result
  cases outcome with
  | returned value => exact ended
  | halted cause =>
      cases cause with
      | panicked message => exact ended
      | exhausted => exact absurd rfl uncut

def Ensures (before : Context → Prop) (action : Action Context α) (after : α → Context → Prop)
    (broken : Context → Prop) : Prop :=
  ∀ state, before state → Ended after broken (action state)

theorem Ensures.pure {value : α} (held : ∀ state, before state → after value state) :
    Ensures before (pure value) after broken :=
  held

theorem Ensures.panic {message : String} (held : ∀ state, before state → broken state) :
    Ensures before (halt (.panicked message) : Action Context α) after broken :=
  held

theorem Ensures.exhausted : Ensures before (halt .exhausted : Action Context α) after broken :=
  fun _ _ => trivial

theorem Ensures.modify {change : Context → Context} {after : Unit → Context → Prop}
    (held : ∀ state, before state → after () (change state)) :
    Ensures before (modify change) after broken :=
  held

theorem Ensures.bind {next : α → Action Context β} {last : β → Context → Prop}
    (first : Ensures before action after broken)
    (second : ∀ value, Ensures (after value) (next value) last broken) :
    Ensures before (action >>= next) last broken := by
  intro state held
  have middle := first state held
  rw [bind_apply]
  generalize action state = result at middle ⊢
  obtain ⟨outcome, later⟩ := result
  cases outcome with
  | returned value => exact second value later middle
  | halted cause => cases cause <;> exact middle

theorem Ensures.bind_get {next : Context → Action Context α}
    (second : ∀ state, before state → Ensures (· = state) (next state) after broken) :
    Ensures before (get >>= next) after broken :=
  fun state held => second state held state rfl

theorem Ensures.guarded {last : Except String α → Context → Prop}
    (ensured : Ensures before action after broken)
    (returned : ∀ value state, after value state → last (.ok value) state)
    (caught : ∀ message state, broken state → last (.error message) state) :
    Ensures before (guarded action) last broken := by
  intro state held
  have ended := ensured state held
  unfold Action.guarded
  generalize action state = result at ended ⊢
  obtain ⟨outcome, later⟩ := result
  cases outcome with
  | returned value => exact returned value later ended
  | halted cause =>
      cases cause with
      | panicked message => exact caught message later ended
      | exhausted => trivial

theorem Ensures.mono {stronger : Context → Prop} {last : α → Context → Prop}
    {left : Context → Prop} (ensured : Ensures before action after broken)
    (first : ∀ state, stronger state → before state)
    (returned : ∀ value state, after value state → last value state)
    (gaveUp : ∀ state, broken state → left state) : Ensures stronger action last left :=
  fun state held => (ensured state (first state held)).mono returned gaveUp

end Action

end LinkRouting
