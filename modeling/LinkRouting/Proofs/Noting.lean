import LinkRouting.Proofs.Replay

namespace LinkRouting

variable [Url.Names] {Handler Callback State α β : Type}

/-- A call begins, or ends without giving up. -/
inductive Note (Handler Callback : Type) where
  | asked (handler : Handler) (params : Params)
  | answered (handler : Handler) (params : Params) (accepted : Bool)
  | told (callback : Callback) (handle : Handle) (source : String) (params : Params)
  | settled (callback : Callback) (handle : Handle) (source : String) (params : Params)

/-- A state with notes, the latest first. -/
abbrev Noted (Handler Callback State : Type) := State × List (Note Handler Callback)

namespace Story

def blank (story : Story Handler Callback State) :
    Story Handler Callback (Noted Handler Callback State) :=
  ⟨(story.own, []), story.past⟩

def plain (story : Story Handler Callback (Noted Handler Callback State)) :
    Story Handler Callback State :=
  ⟨story.own.1, story.past⟩

end Story

namespace Program

def note (note : Note Handler Callback)
    (next : Program Handler Callback (Noted Handler Callback State) α) :
    Program Handler Callback (Noted Handler Callback State) α :=
  .work (Prod.map id (note :: ·)) fun _ => next

/-- Does what a program does, and goes on with `finish` where that is done. -/
def noted (finish : α → Program Handler Callback (Noted Handler Callback State) β) :
    Program Handler Callback State α →
      Program Handler Callback (Noted Handler Callback State) β
  | .done value => finish value
  | .panic message => .panic message
  | .work change next => .work (Prod.map change id) fun own => (next own.1).noted finish
  | .use operation next => .use operation fun answer => (next answer).noted finish
  | .dispatch handle source params next =>
      .dispatch handle source params fun handled => (next handled).noted finish

end Program

namespace Conduct

variable (conduct : Conduct Handler Callback State)

/-- Takes notes of every call of a handler or a callback. -/
def noted : Conduct Handler Callback (Noted Handler Callback State) where
  handle handler params :=
    .note (.asked handler params) <| (conduct.handle handler params).noted fun accepted =>
      .note (.answered handler params accepted) (.done accepted)
  unmatched callback handle source params :=
    .note (.told callback handle source params) <|
      (conduct.unmatched callback handle source params).noted fun _ =>
        .note (.settled callback handle source params) (.done ())

end Conduct

namespace Program

variable {app : Application Handler Callback (Story Handler Callback State)}
  {rich : Application Handler Callback (Story Handler Callback (Noted Handler Callback State))}

abbrev Shows : StoryWorld Handler Callback (Noted Handler Callback State) →
    StoryWorld Handler Callback State → Prop :=
  World.Shows Story.plain

theorem shows_note (note : Note Handler Callback)
    {next : Program Handler Callback (Noted Handler Callback State) α}
    {action : Action (StoryWorld Handler Callback State) α}
    (paired : Action.Paired Shows (next.run rich) action) :
    Action.Paired Shows ((next.note note).run rich) action := by
  rintro world _ rfl
  exact paired _ _ rfl

theorem shows_noted (paired : rich.Paired .same Shows app)
    {finish : α → Program Handler Callback (Noted Handler Callback State) α}
    (ends : ∀ value, Action.Paired Shows ((finish value).run rich) (pure value))
    (program : Program Handler Callback State α) :
    Action.Paired Shows ((program.noted finish).run rich) (program.run app) := by
  induction program with
  | done value => exact ends value
  | panic message => exact .halt _
  | work change next ih =>
      refine .bind (.modify ?_) fun _ => .bind_get ?_
      · rintro world _ rfl
        rfl
      · rintro world _ rfl
        exact ih world.app.own.1
  | use operation next ih =>
      refine .bind (.step ?_) fun answer => .bind (.modify ?_) fun _ => ih answer
      · rintro world _ rfl
        rw [(World.faithful_mapApp Story.plain).perform]
        exact ⟨rfl, rfl⟩
      · rintro world _ rfl
        rfl
  | dispatch handle source params next ih =>
      have routed := paired.route (World.respected_shows _) handle (Eq.refl source) (Eq.refl params)
      refine .bind (.guarded routed) fun handled => .bind (.modify ?_) fun _ => ih handled
      rintro world _ rfl
      rfl

end Program

theorem Conduct.shows_noted (conduct : Conduct Handler Callback State) (depth : Nat) :
    (conduct.noted.application depth).Paired .same Program.Shows (conduct.application depth) := by
  induction depth with
  | zero => exact ⟨fun _ _ _ _ => .halt _, fun _ _ _ _ _ _ _ _ => .halt _⟩
  | succ depth ih =>
      constructor
      · rintro handler params _ rfl
        refine Program.shows_note _ (Program.shows_noted ih (fun accepted => ?_) _)
        exact Program.shows_note _ (.pure accepted)
      · rintro callback handle source _ params _ rfl rfl
        refine Program.shows_note _ (Program.shows_noted ih (fun _ => ?_) _)
        exact Program.shows_note _ (.pure ())

namespace Program

variable (conduct : Conduct Handler Callback State) (depth : Nat)
  (program : Program Handler Callback State α) (world : StoryWorld Handler Callback State)

def runNoted : Outcome α × StoryWorld Handler Callback (Noted Handler Callback State) :=
  (program.noted .done).run (conduct.noted.application depth) (world.mapApp Story.blank)

/-- What a run has noted in the end. -/
def notes : List (Note Handler Callback) :=
  (program.runNoted conduct depth world).2.app.own.2

theorem run_eq_runNoted : program.run (conduct.application depth) world =
    (program.runNoted conduct depth world).map id (World.mapApp Story.plain) := by
  have shown : Action.Paired Shows
      ((program.noted .done).run (conduct.noted.application depth))
      (program.run (conduct.application depth)) :=
    shows_noted (conduct.shows_noted depth) (fun value => .pure value) program
  exact (Action.mirrors_iff_paired.mpr shown (world.mapApp Story.blank)).symm

end Program

end LinkRouting
