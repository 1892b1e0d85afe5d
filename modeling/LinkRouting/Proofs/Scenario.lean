import LinkRouting.Proofs.Program
import LinkRouting.Scenario.Run

namespace LinkRouting.Scenario

open LinkRouting.Program

variable {depth : Nat} {asked : Bound → Params → Act Bool}

theorem report_gives (step : Step) : (report asked step).Gives fun _ => True := by
  intro outer
  refine fun _ _ _ => (caught_gives (perform asked step)).bind fun result _ => ?_
  cases result <;> exact fun _ _ => trivial

theorem reports_gives (steps : List Step) :
    (reports asked steps).Gives fun reports => reports.length = steps.length := by
  induction steps with
  | nil => rfl
  | cons step rest ih =>
      refine (report_gives step).bind fun first _ => ih.bind fun others count => ?_
      exact congrArg (· + 1) count

/-- A scenario reports each of its steps, whichever of them give up, unless it is cut off. -/
theorem run_reports [Url.Names] (depth : Nat) (steps : List Step) (world : StageWorld) :
    (run depth steps world).1 = .halted .exhausted ∨
      ∃ reports, (run depth steps world).1 = .returned reports ∧
        reports.length = steps.length :=
  (reports_gives steps).run world

theorem run_cons [Url.Names] (step : Step) (rest : List Step) :
    run depth (step :: rest) = (do
      let first ← (report (asks depth) step).run ((conduct depth).application depth)
      let others ← run depth rest
      pure (first :: others)) := by
  simp only [run, reports, run_bind]
  rfl

/-- What lasts through every program lasts through every scenario. -/
theorem run_preserves [Url.Names] {holds : StageWorld → Prop} (lasting : StoryWorld.Lasting holds)
    (depth : Nat) (steps : List Step) : Action.Preserves holds (run depth steps) :=
  lasting.run (lasting.keeps (conduct depth) depth) _

end LinkRouting.Scenario
