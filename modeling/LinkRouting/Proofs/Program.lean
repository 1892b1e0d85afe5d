import LinkRouting.Proofs.Preservation
import LinkRouting.Router.Program

namespace LinkRouting

variable {Handler Callback State α β : Type}

namespace Program

open LinkRouting.Action

variable {app : Application Handler Callback (Story Handler Callback State)}
  {program : Program Handler Callback State α} {following : α → Program Handler Callback State β}
  {holds : α → Prop} {last : β → Prop}

theorem run_bind [Url.Names] (program : Program Handler Callback State α)
    (following : α → Program Handler Callback State β) :
    (program >>= following).run app =
      program.run app >>= fun value => (following value).run app := by
  change (program.bind following).run app = _
  induction program with
  | done value => rfl
  | panic message => rfl
  | work change next ih =>
      funext world
      exact congrFun (ih _) _
  | use operation next ih =>
      funext world
      exact congrFun (ih _) _
  | dispatch handle source params next ih =>
      funext world
      simp only [Program.bind, Program.run, ih, guarded, bind_apply]
      rcases app.route handle source params world with ⟨value | ⟨message⟩ | _, later⟩ <;> rfl

/-- A program gives a value that `holds`, whatever it is answered, and does not give up. -/
def Gives (holds : α → Prop) : Program Handler Callback State α → Prop
  | .done value => holds value
  | .panic _ => False
  | .work _ next => ∀ own, (next own).Gives holds
  | .use _ next => ∀ answer, (next answer).Gives holds
  | .dispatch _ _ _ next => ∀ handled, (next handled).Gives holds

theorem Gives.bind (gives : program.Gives holds)
    (goesOn : ∀ value, holds value → (following value).Gives last) :
    (program >>= following).Gives last := by
  change (program.bind following).Gives last
  induction program with
  | done value => exact goesOn value gives
  | panic message => exact gives.elim
  | work change next ih => exact fun own => ih own (gives own)
  | use operation next ih => exact fun answer => ih answer (gives answer)
  | dispatch handle source params next ih => exact fun handled => ih handled (gives handled)

theorem caught_gives (program : Program Handler Callback State α) :
    program.caught.Gives fun _ => True := by
  induction program with
  | done value => trivial
  | panic message => trivial
  | work change next ih => exact ih
  | use operation next ih => exact ih
  | dispatch handle source params next ih => exact ih

theorem Gives.run [Url.Names] (gives : program.Gives holds)
    (world : StoryWorld Handler Callback State) :
    (program.run app world).1 = .halted .exhausted ∨
      ∃ value, (program.run app world).1 = .returned value ∧ holds value := by
  induction program generalizing world with
  | done value => exact .inr ⟨value, rfl, gives⟩
  | panic message => exact gives.elim
  | work change next ih => exact ih _ (gives _) _
  | use operation next ih => exact ih _ (gives _) _
  | dispatch handle source params next ih =>
      simp only [Program.run, guarded, bind_apply]
      rcases app.route handle source params world with ⟨value | ⟨message⟩ | _, later⟩
      · exact ih _ (gives _) _
      · exact ih _ (gives _) _
      · exact .inl rfl

end Program

/-- What holds of a world whatever a program does next. -/
structure StoryWorld.Lasting [Url.Names]
    (holds : StoryWorld Handler Callback State → Prop) : Prop where
  unheard : World.Unheard holds
  work : ∀ world change, holds world → holds (StoryWorld.work world change)
  use : ∀ (world : StoryWorld Handler Callback State) (operation : Operation Handler Callback),
    holds world → holds (StoryWorld.remember (operation.perform world).2
      (.used operation (operation.perform world).1))
  dispatched : ∀ world handle source handled, holds world →
    holds (StoryWorld.remember world (.dispatched handle source handled))

namespace StoryWorld.Lasting

open LinkRouting.Action

variable [Url.Names] {holds : StoryWorld Handler Callback State → Prop}
  (lasting : Lasting holds)

include lasting

theorem run {app : Application Handler Callback (Story Handler Callback State)}
    (keeps : app.Keeps holds) (program : Program Handler Callback State α) :
    Preserves holds (program.run app) := by
  induction program with
  | done value => exact .pure value
  | panic message => exact .halt _
  | work change next ih =>
      refine .bind (.modify fun world held => lasting.work world change held) fun _ => ?_
      exact .bind .get fun world => ih world.app.own
  | use operation next ih =>
      -- Between an operation and the note of it the story lags behind, so they are one step.
      intro world held
      exact ih _ _ (lasting.use world operation held)
  | dispatch handle source params next ih =>
      have routed : Preserves holds (app.route handle source params) :=
        keeps.route lasting.unheard handle source params
      refine .bind (.guarded routed) fun handled => ?_
      refine .bind (.modify fun world held => ?_) fun _ => ih handled
      exact lasting.dispatched world handle source handled held

/-- By induction on how deep handlers may be nested. -/
theorem keeps (conduct : Conduct Handler Callback State) (depth : Nat) :
    (conduct.application depth).Keeps holds := by
  induction depth with
  | zero => exact ⟨fun _ _ => .halt _, fun _ _ _ _ => .halt _⟩
  | succ depth ih =>
      exact ⟨fun handler params => lasting.run ih (conduct.handle handler params),
        fun callback handle source params =>
          lasting.run ih (conduct.unmatched callback handle source params)⟩

end StoryWorld.Lasting

end LinkRouting
