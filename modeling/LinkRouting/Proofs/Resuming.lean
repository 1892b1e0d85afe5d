import LinkRouting.Proofs.Pairing

namespace LinkRouting

variable {Handler Callback State α : Type}

theorem Pairing.eq_of_operations [Url.Names] {operation other : Operation Handler Callback}
    (operations : Pairing.same.Operations operation other) : operation = other := by
  cases operations with
  | same => rfl
  | routerFor names => exact congrArg Operation.routerFor names
  | hasScheme names => exact congrArg Operation.hasScheme names
  | unregister names => exact congrArg Operation.unregister names
  | handleFor texts => exact congrArg Operation.handleFor texts
  | canRoute handle texts given =>
      cases texts
      cases given
      rfl

theorem Pairing.eq_of_deeds [Url.Names] {deed other : Deed Handler Callback}
    (deeds : Pairing.same.Deeds deed other) : deed = other := by
  cases deeds with
  | used operations answer =>
      rw [eq_of_operations operations]
  | dispatched handle texts handled =>
      cases texts
      rfl

namespace StoryWorld

/-- Nothing has happened yet in this world. -/
def begin (registry : Registry Handler Callback) (own : State) :
    StoryWorld Handler Callback State :=
  { registry, journal := [], app := ⟨own, []⟩ }

variable (world : StoryWorld Handler Callback State)

/-- Goes on from `world` as a story that has just begun goes on to `later`. -/
def goOn (later : StoryWorld Handler Callback State) : StoryWorld Handler Callback State :=
  World.resume world (fun story => ⟨story.own, story.past ++ world.app.past⟩) later

theorem faithful_goOn : World.Faithful world.goOn :=
  ⟨fun _ => rfl, fun _ _ => rfl, fun _ _ => rfl⟩

theorem kept_goOn [Url.Names] :
    Pairing.same.Kept Eq fun later reached => world.goOn later = reached where
  toRespected := world.faithful_goOn.respected
  own := by
    rintro later _ rfl
    rfl
  work := by
    rintro later _ change other same rfl
    have equal : change = other := funext fun own => same own own rfl
    rw [equal]
    rfl
  perform := by
    rintro later _ operation other operations rfl
    rw [Pairing.eq_of_operations operations, world.faithful_goOn.perform]
    exact ⟨rfl, rfl⟩
  remember := by
    rintro later _ deed other deeds rfl
    rw [Pairing.eq_of_deeds deeds]
    rfl

end StoryWorld

theorem Pairing.Conducts.refl [Url.Names] (conduct : Conduct Handler Callback State) :
    Pairing.same.Conducts Eq conduct conduct where
  handle := by
    rintro handler params _ rfl
    exact .refl Eq.refl Eq.refl _
  unmatched := by
    rintro callback handle source _ params _ rfl rfl
    exact .refl Eq.refl Eq.refl _

namespace Program

variable [Url.Names] (conduct : Conduct Handler Callback State) (depth : Nat)
  (program : Program Handler Callback State α) (world : StoryWorld Handler Callback State)

theorem run_goOn (later : StoryWorld Handler Callback State) :
    program.run (conduct.application depth) (world.goOn later) =
      (program.run (conduct.application depth) later).map id world.goOn := by
  have kept := world.kept_goOn
  have programs : Pairing.same.Programs Eq program program := .refl Eq.refl Eq.refl program
  have conducts := Pairing.Conducts.refl conduct
  obtain ⟨outcome, reached⟩ := programs.run kept (conducts.application kept depth) later _ rfl
  exact Prod.ext outcome.symm reached.symm

theorem run_begin : program.run (conduct.application depth) world =
    (program.run (conduct.application depth)
      (.begin world.registry world.app.own)).map id world.goOn :=
  program.run_goOn conduct depth world (.begin world.registry world.app.own)

theorem notes_begin : program.notes conduct depth world =
    program.notes conduct depth (.begin world.registry world.app.own) := by
  have noted := (program.noted .done).run_begin conduct.noted depth (world.mapApp Story.blank)
  exact congrArg (fun ended => ended.2.app.own.2) noted

end Program

end LinkRouting
