import LinkRouting.Proofs.Dispatch.Query
import LinkRouting.Proofs.Noting

namespace LinkRouting

variable [Url.Names] {Handler Callback State Twin α β : Type}

namespace Pairing

/-- Operations that differ only in what goes together. -/
inductive Operations (pairing : Pairing) :
    Operation Handler Callback → Operation Handler Callback → Prop where
  | same (operation) : Operations pairing operation operation
  | routerFor {name other} (names : pairing.names name other) :
      Operations pairing (.routerFor name) (.routerFor other)
  | hasScheme {name other} (names : pairing.names name other) :
      Operations pairing (.hasScheme name) (.hasScheme other)
  | unregister {name other} (names : pairing.names name other) :
      Operations pairing (.unregister name) (.unregister other)
  | handleFor {source variant} (texts : pairing.texts source variant) :
      Operations pairing (.handleFor source) (.handleFor variant)
  | canRoute (handle) {source variant params others} (texts : pairing.texts source variant)
      (given : pairing.given params others) :
      Operations pairing (.canRoute handle source params) (.canRoute handle variant others)

inductive Deeds (pairing : Pairing) : Deed Handler Callback → Deed Handler Callback → Prop where
  | used {operation other} (operations : pairing.Operations operation other) (answer) :
      Deeds pairing (.used operation answer) (.used other answer)
  | dispatched (handle) {source variant} (texts : pairing.texts source variant) (handled) :
      Deeds pairing (.dispatched handle source handled) (.dispatched handle variant handled)

inductive Notes (pairing : Pairing) : Note Handler Callback → Note Handler Callback → Prop where
  | asked (handler) {params others} (asked : pairing.asked params others) :
      Notes pairing (.asked handler params) (.asked handler others)
  | answered (handler) {params others} (asked : pairing.asked params others) (accepted) :
      Notes pairing (.answered handler params accepted) (.answered handler others accepted)
  | told (callback handle) {source variant params others}
      (texts : pairing.texts source variant) (given : pairing.given params others) :
      Notes pairing (.told callback handle source params) (.told callback handle variant others)
  | settled (callback handle) {source variant params others}
      (texts : pairing.texts source variant) (given : pairing.given params others) :
      Notes pairing (.settled callback handle source params)
        (.settled callback handle variant others)

/-- Programs that go together whatever they are answered, as long as their states do. -/
inductive Programs (pairing : Pairing) (states : State → Twin → Prop) :
    Program Handler Callback State α → Program Handler Callback Twin α → Prop where
  | done (value) : Programs pairing states (.done value) (.done value)
  | panic (message) : Programs pairing states (.panic message) (.panic message)
  | work {change other next otherNext}
      (kept : ∀ own twin, states own twin → states (change own) (other twin))
      (later : ∀ own twin, states own twin →
        Programs pairing states (next own) (otherNext twin)) :
      Programs pairing states (.work change next) (.work other otherNext)
  | use {operation other next otherNext} (operations : pairing.Operations operation other)
      (later : ∀ answer, Programs pairing states (next answer) (otherNext answer)) :
      Programs pairing states (.use operation next) (.use other otherNext)
  | dispatch (handle) {source variant params others next otherNext}
      (texts : pairing.texts source variant) (given : pairing.given params others)
      (later : ∀ handled, Programs pairing states (next handled) (otherNext handled)) :
      Programs pairing states (.dispatch handle source params next)
        (.dispatch handle variant others otherNext)

/-- Handlers that are asked with, and callbacks that are told, what goes together. -/
structure Conducts (pairing : Pairing) (states : State → Twin → Prop)
    (conduct : Conduct Handler Callback State) (twin : Conduct Handler Callback Twin) : Prop where
  handle : ∀ handler params others, pairing.asked params others →
    pairing.Programs states (conduct.handle handler params) (twin.handle handler others)
  unmatched : ∀ callback handle source variant params others,
    pairing.texts source variant → pairing.given params others →
    pairing.Programs states (conduct.unmatched callback handle source params)
      (twin.unmatched callback handle variant others)

/-- States that go together and have notes that do. -/
structure Noteds (pairing : Pairing) (states : State → Twin → Prop)
    (noted : Noted Handler Callback State) (twin : Noted Handler Callback Twin) : Prop where
  own : states noted.1 twin.1
  notes : List.Forall₂ pairing.Notes noted.2 twin.2

end Pairing

namespace Pairing

/-- Worlds go together through all that programs which go together do in them. -/
structure Kept (pairing : Pairing) (states : State → Twin → Prop)
    (related : StoryWorld Handler Callback State → StoryWorld Handler Callback Twin → Prop) :
    Prop extends pairing.Respected related where
  own : ∀ {world twin}, related world twin → states world.app.own twin.app.own
  work : ∀ {world twin} {change : State → State} {other : Twin → Twin},
    (∀ own twin, states own twin → states (change own) (other twin)) → related world twin →
    related (world.work change) (twin.work other)
  perform : ∀ {world twin} {operation other : Operation Handler Callback},
    pairing.Operations operation other → related world twin →
    (operation.perform world).1 = (other.perform twin).1 ∧
      related (operation.perform world).2 (other.perform twin).2
  remember : ∀ {world twin} {deed other : Deed Handler Callback}, pairing.Deeds deed other →
    related world twin → related (world.remember deed) (twin.remember other)

section Kept

variable {pairing : Pairing} {states : State → Twin → Prop}
  {related : StoryWorld Handler Callback State → StoryWorld Handler Callback Twin → Prop}
  (kept : pairing.Kept states related)

include kept

theorem Programs.run {app : Application Handler Callback (Story Handler Callback State)}
    {twinApp : Application Handler Callback (Story Handler Callback Twin)}
    (apps : app.Paired pairing related twinApp) {program : Program Handler Callback State α}
    {twinProgram : Program Handler Callback Twin α}
    (programs : pairing.Programs states program twinProgram) :
    Action.Paired related (program.run app) (twinProgram.run twinApp) := by
  induction programs with
  | done value => exact .pure value
  | panic message => exact .halt _
  | work same later ih =>
      refine .bind (.modify fun world twin => kept.work same) fun _ => ?_
      exact .bind_get fun world twin together => ih _ _ (kept.own together)
  | use operations later ih =>
      refine .bind (.step fun world twin => kept.perform operations) fun answer => ?_
      exact .bind (.modify fun world twin => kept.remember (.used operations answer))
        fun _ => ih answer
  | dispatch handle texts given later ih =>
      refine .bind (.guarded (apps.route kept.toRespected handle texts given)) fun handled => ?_
      exact .bind (.modify fun world twin => kept.remember (.dispatched handle texts handled))
        fun _ => ih handled

/-- By induction on how deep handlers may be nested. -/
theorem Conducts.application {conduct : Conduct Handler Callback State}
    {twin : Conduct Handler Callback Twin} (conducts : pairing.Conducts states conduct twin)
    (depth : Nat) :
    (conduct.application depth).Paired pairing related (twin.application depth) := by
  induction depth with
  | zero => exact ⟨fun _ _ _ _ => .halt _, fun _ _ _ _ _ _ _ _ => .halt _⟩
  | succ depth ih =>
      exact ⟨fun handler params others asked =>
          (conducts.handle handler params others asked).run kept ih,
        fun callback handle source variant params others texts given =>
          (conducts.unmatched callback handle source variant params others texts given).run kept ih⟩

end Kept

end Pairing

/-- Worlds with one registry whose stories have gone on alike since they were at `base` and at
`other`.  Their journals may differ. -/
structure StoryWorld.Paired (pairing : Pairing) (states : State → Twin → Prop)
    (base other : List (Deed Handler Callback)) (world : StoryWorld Handler Callback State)
    (twin : StoryWorld Handler Callback Twin) : Prop where
  registry : world.registry = twin.registry
  own : states world.app.own twin.app.own
  past : ∃ recent others, world.app.past = recent ++ base ∧ twin.app.past = others ++ other ∧
    List.Forall₂ pairing.Deeds recent others

namespace Pairing

variable {pairing : Pairing} {states : State → Twin → Prop}

theorem canRoute_fst {world : World Handler Callback State} {twin : World Handler Callback Twin}
    (registry : world.registry = twin.registry) {source variant : String}
    {params others : Params} (texts : pairing.texts source variant)
    (given : pairing.given params others) (handle : Handle) :
    (world.canRoute handle source params).1 = (twin.canRoute handle variant others).1 := by
  have parsed := pairing.parse texts
  cases reading : Url.parse variant with
  | error error =>
      rw [reading] at parsed
      rw [World.canRoute_of_error parsed, World.canRoute_of_error reading]
  | ok url =>
      rw [reading] at parsed
      have reach : twin.reach handle = world.reach handle := by
        unfold World.reach World.fallsBack World.fallback
        rw [registry]
      have offered := (pairing.requests texts given url world.registry.options).offers
        (world.reach handle)
      rw [World.canRoute_of_ok parsed, World.canRoute_of_ok reading, reach, World.request,
        World.request, ← registry]
      generalize offers _ _ = first at offered ⊢
      generalize offers _ _ = second at offered ⊢
      cases offered with
      | nil => rfl
      | cons offer others => rfl

theorem Operations.perform {operation other : Operation Handler Callback}
    (operations : pairing.Operations operation other) {world : World Handler Callback State}
    {twin : World Handler Callback Twin} (registry : world.registry = twin.registry) :
    (operation.perform world).1 = (other.perform twin).1 ∧
      (operation.perform world).2.registry = (other.perform twin).2.registry := by
  have handles {name other : String} (names : pairing.names name other) :
      Handle.ofName name = Handle.ofName other := congrArg Handle.mk (pairing.lower names)
  cases operations with
  | same => exact Operation.perform_of_registry registry
  | @routerFor name other names =>
      have equal : Operation.perform world (.routerFor name) =
          Operation.perform world (.routerFor other) := by
        simp only [Operation.perform, World.routerFor, handles names]
      rw [equal]
      exact Operation.perform_of_registry registry
  | @hasScheme name other names =>
      have equal : Operation.perform world (.hasScheme name) =
          Operation.perform world (.hasScheme other) := by
        simp only [Operation.perform, World.hasScheme, handles names]
      rw [equal]
      exact Operation.perform_of_registry registry
  | @unregister name other names =>
      have equal : Operation.perform world (.unregister name) =
          Operation.perform world (.unregister other) := by
        simp only [Operation.perform, World.unregister, handles names]
      rw [equal]
      exact Operation.perform_of_registry registry
  | handleFor texts =>
      refine ⟨congrArg Answer.handle ?_, registry⟩
      simp only [Registry.handleFor, pairing.parse texts, registry]
  | canRoute handle texts given =>
      refine ⟨congrArg Answer.flag (canRoute_fst registry texts given handle), ?_⟩
      exact (World.registry_canRoute _ _).trans
        (registry.trans (World.registry_canRoute _ _).symm)

theorem kept_paired (pairing : Pairing) (states : State → Twin → Prop)
    (base other : List (Deed Handler Callback)) :
    pairing.Kept states (StoryWorld.Paired pairing states base other) where
  registry paired := paired.registry
  signal _ _ _ paired := ⟨paired.registry, paired.own, paired.past⟩
  own paired := paired.own
  work same paired := ⟨paired.registry, same _ _ paired.own, paired.past⟩
  perform operations paired := by
    obtain ⟨answer, registry⟩ := operations.perform paired.registry
    refine ⟨answer, registry, ?_, ?_⟩
    · rw [Operation.app_perform, Operation.app_perform]
      exact paired.own
    · rw [Operation.app_perform, Operation.app_perform]
      exact paired.past
  remember deeds paired := by
    obtain ⟨recent, others, past, twinPast, same⟩ := paired.past
    exact ⟨paired.registry, paired.own, _ :: recent, _ :: others, congrArg (_ :: ·) past,
      congrArg (_ :: ·) twinPast, same.cons deeds⟩

section Notes

theorem Programs.note {note also : Note Handler Callback} (notes : pairing.Notes note also)
    {next : Program Handler Callback (Noted Handler Callback State) α}
    {other : Program Handler Callback (Noted Handler Callback Twin) α}
    (programs : pairing.Programs (pairing.Noteds states) next other) :
    pairing.Programs (pairing.Noteds states) (next.note note) (other.note also) :=
  .work (fun _ _ noted => ⟨noted.own, noted.notes.cons notes⟩) fun _ _ _ => programs

theorem Programs.noted {program : Program Handler Callback State α}
    {twin : Program Handler Callback Twin α} (programs : pairing.Programs states program twin)
    {finish : α → Program Handler Callback (Noted Handler Callback State) β}
    {other : α → Program Handler Callback (Noted Handler Callback Twin) β}
    (ends : ∀ value, pairing.Programs (pairing.Noteds states) (finish value) (other value)) :
    pairing.Programs (pairing.Noteds states) (program.noted finish) (twin.noted other) := by
  induction programs with
  | done value => exact ends value
  | panic message => exact .panic message
  | work kept later ih =>
      exact .work (fun own twin noted => ⟨kept _ _ noted.own, noted.notes⟩)
        fun own twin noted => ih _ _ noted.own
  | use operations later ih => exact .use operations ih
  | dispatch handle texts given later ih => exact .dispatch handle texts given ih

theorem Conducts.noted {conduct : Conduct Handler Callback State}
    {twin : Conduct Handler Callback Twin} (conducts : pairing.Conducts states conduct twin) :
    pairing.Conducts (pairing.Noteds states) conduct.noted twin.noted where
  handle handler params others asked := by
    refine .note (.asked handler asked) ?_
    refine (conducts.handle handler params others asked).noted fun accepted => ?_
    exact .note (.answered handler asked accepted) (.done accepted)
  unmatched callback handle source variant params others texts given := by
    refine .note (.told callback handle texts given) ?_
    refine (conducts.unmatched callback handle _ _ _ _ texts given).noted fun _ => ?_
    exact .note (.settled callback handle texts given) (.done ())

end Notes

section Runs

variable {conduct : Conduct Handler Callback State} {twin : Conduct Handler Callback Twin}
  (conducts : pairing.Conducts states conduct twin) {program : Program Handler Callback State α}
  {twinProgram : Program Handler Callback Twin α}
  (programs : pairing.Programs states program twinProgram)
  {world : StoryWorld Handler Callback State} {twinWorld : StoryWorld Handler Callback Twin}
  (registry : world.registry = twinWorld.registry)
  (own : states world.app.own twinWorld.app.own) (depth : Nat)

include conducts programs registry own

/-- Two runs end alike, and what they have done since they began goes together. -/
theorem Conducts.ends : (program.run (conduct.application depth) world).1 =
      (twinProgram.run (twin.application depth) twinWorld).1 ∧
    StoryWorld.Paired pairing states world.app.past twinWorld.app.past
      (program.run (conduct.application depth) world).2
      (twinProgram.run (twin.application depth) twinWorld).2 := by
  have kept := kept_paired pairing states world.app.past twinWorld.app.past
  exact programs.run kept (conducts.application kept depth) world twinWorld
    ⟨registry, own, [], [], rfl, rfl, .nil⟩

theorem Conducts.notes : List.Forall₂ pairing.Notes (program.notes conduct depth world)
    (twinProgram.notes twin depth twinWorld) := by
  have noted : pairing.Programs (pairing.Noteds states) (program.noted .done)
      (twinProgram.noted .done) := programs.noted fun value => .done value
  have blank : pairing.Noteds states (world.mapApp Story.blank).app.own
      (twinWorld.mapApp Story.blank).app.own := ⟨own, .nil⟩
  exact (conducts.noted.ends noted registry blank depth).2.own.notes

end Runs

/-- A program goes together with itself if everything else does. -/
theorem Programs.refl (texts : ∀ source, pairing.texts source source)
    (given : ∀ params, pairing.given params params) (program : Program Handler Callback State α) :
    pairing.Programs Eq program program := by
  induction program with
  | done value => exact .done value
  | panic message => exact .panic message
  | work change next ih =>
      exact .work (fun _ _ => congrArg change) fun own _ same => same ▸ ih own
  | use operation next ih => exact .use (.same operation) ih
  | dispatch handle source params next ih =>
      exact .dispatch handle (texts source) (given params) ih

end Pairing

end LinkRouting
