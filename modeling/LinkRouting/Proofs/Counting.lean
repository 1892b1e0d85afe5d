import LinkRouting.Proofs.Ledger
import LinkRouting.Proofs.Noting

namespace LinkRouting

/-! Counters, and what they should show.  A dispatch that is done calls for one count of how it
ended, and a handler that has declined for one of its scheme.  A callback is called only after the
dispatch was counted, so while it has not settled there is one count too many.
-/

variable {Handler Callback State α : Type}

namespace World

/-- How often something was measured.  For a counter this is what it shows. -/
def total (world : World Handler Callback State) (metric : Metric) : Nat :=
  world.journal.count (.measured metric)

variable {world : World Handler Callback State} {metric : Metric}

@[simp] theorem total_log (event : Log.Event) :
    (world.log event).total metric = world.total metric :=
  List.count_cons_of_ne (by simp)

theorem total_measure (other : Metric) : (world.measure other).total metric =
    world.total metric + if other = metric then 1 else 0 := by
  unfold total measure signal
  rw [List.count_cons]
  simp

variable {handle : Handle} (counter : metric.gauge? = none)

include counter

theorem total_registered (scheme : String) (count : Nat) :
    (world.measure (.registered scheme count)).total metric = world.total metric := by
  rw [total_measure, if_neg]
  · rfl
  · rintro rfl
    cases counter

theorem total_addAll (added : List (Route Handler)) :
    (world.addAll handle added).2.total metric = world.total metric := by
  induction added generalizing world with
  | nil => rfl
  | cons route rest ih => exact ih.trans ((total_registered counter _ _).trans (total_log _))

theorem total_removeFirst (wanted : Route Handler → Bool) :
    (world.removeFirst handle wanted).2.total metric = world.total metric := by
  unfold removeFirst
  split
  · rfl
  · exact (total_registered counter _ _).trans (total_log _)

theorem total_addPattern (pattern : String) (priority : Nat) (handler : Handler) :
    (world.addPattern handle pattern priority handler).2.total metric = world.total metric := by
  rw [addPattern_snd]
  exact total_addAll counter _

omit counter in
theorem total_canRoute [Url.Names] (source : String) (params : Params) :
    (world.canRoute handle source params).2.total metric = world.total metric := by
  unfold canRoute
  split
  · exact total_log _
  · dsimp only
    split
    · rfl
    · split
      · exact total_log _
      · rfl

/-- No operation counts anything. -/
theorem total_perform [Url.Names] (operation : Operation Handler Callback) :
    (operation.perform world).2.total metric = world.total metric := by
  cases operation with
  | addRoute handle route => exact total_addAll counter [route]
  | addPattern handle pattern priority handler => exact total_addPattern counter _ _ _
  | addPatterns handle patterns handler =>
      refine (congrArg (total · metric) (addPatterns_snd ..)).trans ?_
      exact total_addAll counter _
  | setRoute handle pattern handler =>
      cases handler with
      | none => exact total_removeFirst counter _
      | some handler => exact total_addPattern counter _ _ _
  | removeRoute handle route => exact total_removeFirst counter _
  | removePattern handle pattern => exact total_removeFirst counter _
  | removeAll handle => exact total_registered counter _ _
  | unregister name => exact total_log _
  | unregisterAll => exact total_log _
  | canRoute handle source params => exact total_canRoute source params
  | log event => exact total_log event
  | _ => rfl

end World

/-- How a dispatch is counted that was done. -/
def DispatchOutcome.ofCall [Url.Names] (source : String) (handled : Bool) : DispatchOutcome :=
  match Url.parse source with
  | .error _ => .invalidUrl
  | .ok _ => if handled then .handled else .unmatched

theorem DispatchOutcome.ofCall_eq_invalidUrl_iff [Url.Names] (source : String) (handled : Bool) :
    ofCall source handled = .invalidUrl ↔ ∃ error, Url.parse source = .error error := by
  unfold ofCall
  cases Url.parse source with
  | error error => simp
  | ok url => cases handled <;> simp

theorem DispatchOutcome.ofCall_false_ne_handled [Url.Names] (source : String) :
    ofCall source false ≠ .handled := by
  unfold ofCall
  cases Url.parse source <;> simp

/-- A dispatch in which a handler gave up is not counted. -/
def Deed.metric? [Url.Names] : Deed Handler Callback → Option Metric
  | .dispatched handle source (.ok handled) =>
      some (.dispatched handle.scheme (.ofCall source handled))
  | _ => none

namespace Note

/-- A handler has declined for the scheme that its parameters tell. -/
def declined? : Note Handler Callback → Option Metric
  | .answered _ params false => params.scheme?.map .declined
  | _ => none

def told? : Note Handler Callback → Option Metric
  | .told _ handle _ _ => some (.dispatched handle.scheme .unmatched)
  | _ => none

def settled? : Note Handler Callback → Option Metric
  | .settled _ handle _ _ => some (.dispatched handle.scheme .unmatched)
  | _ => none

end Note

theorem count_filterMap_eq_zero {f : α → Option Metric} {metric : Metric}
    (other : ∀ a, f a ≠ some metric) (items : List α) : (items.filterMap f).count metric = 0 := by
  refine List.count_eq_zero.mpr fun member => ?_
  obtain ⟨a, _, same⟩ := List.mem_filterMap.mp member
  exact other a same

section Metrics

variable (scheme : String) (outcome : DispatchOutcome) (deeds : List (Deed Handler Callback))
  (notes : List (Note Handler Callback))

theorem count_deeds_declined [Url.Names] :
    (deeds.filterMap Deed.metric?).count (.declined scheme) = 0 := by
  refine count_filterMap_eq_zero (fun deed => ?_) deeds
  unfold Deed.metric?
  split <;> simp

theorem count_told_declined : (notes.filterMap Note.told?).count (.declined scheme) = 0 := by
  refine count_filterMap_eq_zero (fun note => ?_) notes
  unfold Note.told?
  split <;> simp

theorem count_settled_declined : (notes.filterMap Note.settled?).count (.declined scheme) = 0 := by
  refine count_filterMap_eq_zero (fun note => ?_) notes
  unfold Note.settled?
  split <;> simp

theorem count_declined_dispatched :
    (notes.filterMap Note.declined?).count (.dispatched scheme outcome) = 0 := by
  refine count_filterMap_eq_zero (fun note => ?_) notes
  unfold Note.declined?
  split <;> simp

end Metrics

abbrev NotedWorld (Handler Callback State : Type) :=
  StoryWorld Handler Callback (Noted Handler Callback State)

namespace NotedWorld

variable {world : NotedWorld Handler Callback State}

def notes (world : NotedWorld Handler Callback State) : List (Note Handler Callback) :=
  world.app.own.2

def write (world : NotedWorld Handler Callback State) (note : Note Handler Callback) :
    NotedWorld Handler Callback State :=
  StoryWorld.work world (Prod.map id (note :: ·))

/-- Every counter shows what it should, with one more for each callback that has not settled. -/
def Even [Url.Names] (world : NotedWorld Handler Callback State) : Prop :=
  ∀ metric : Metric, metric.gauge? = none →
    world.total metric + (world.notes.filterMap Note.settled?).count metric =
      (world.app.past.filterMap Deed.metric?).count metric +
        (world.notes.filterMap Note.declined?).count metric +
        (world.notes.filterMap Note.told?).count metric

section Steps

variable (world) (deed : Deed Handler Callback) (note : Note Handler Callback) (metric : Metric)

@[simp] theorem notes_write : (world.write note).notes = note :: world.notes := rfl

@[simp] theorem past_write : (world.write note).app.past = world.app.past := rfl

@[simp] theorem total_write : (world.write note).total metric = world.total metric := rfl

@[simp] theorem notes_remember :
    notes (StoryWorld.remember world deed) = world.notes := rfl

@[simp] theorem past_remember :
    (StoryWorld.remember world deed).app.past = deed :: world.app.past := rfl

@[simp] theorem total_remember :
    (StoryWorld.remember world deed).total metric = world.total metric := rfl

@[simp] theorem notes_measure : notes (world.measure metric) = world.notes := rfl

@[simp] theorem past_measure : (world.measure metric).app.past = world.app.past := rfl

end Steps

namespace Even

section

variable [Url.Names] (even : world.Even)

include even

theorem used (operation : Operation Handler Callback) : Even (StoryWorld.remember
    (operation.perform world).2 (.used operation (operation.perform world).1)) := by
  intro metric counter
  have before := even metric counter
  unfold notes at before ⊢
  change (operation.perform world).2.total metric + _ = _
  rw [World.total_perform counter]
  simpa [List.filterMap_cons, Deed.metric?, Operation.app_perform, StoryWorld.remember] using before

theorem gaveUp (handle : Handle) (source message : String) :
    Even (StoryWorld.remember world (.dispatched handle source (.error message))) :=
  even

theorem log (event : Log.Event) : Even (world.log event) := by
  intro metric counter
  have before := even metric counter
  rwa [← World.total_log event] at before

theorem asked (handler : Handler) (params : Params) : Even (world.write (.asked handler params)) :=
  even

theorem accepted (handler : Handler) (params : Params) :
    Even (world.write (.answered handler params true)) :=
  even

theorem declined (handler : Handler) {params : Params} {scheme : String}
    (named : params.scheme? = some scheme) :
    Even ((world.write (.answered handler params false)).measure (.declined scheme)) := by
  intro metric counter
  have before := even metric counter
  simp [World.total_measure, List.filterMap_cons, List.count_cons, Note.settled?, Note.declined?,
    Note.told?, named] at before ⊢
  omega

/-- A dispatch is counted just before it is done. -/
theorem dispatched (handle : Handle) (source : String) (handled : Bool) :
    Even (StoryWorld.remember
      (world.measure (.dispatched handle.scheme (.ofCall source handled)))
      (.dispatched handle source (.ok handled))) := by
  intro metric counter
  have before := even metric counter
  simp [World.total_measure, List.count_cons, Deed.metric?] at before ⊢
  omega

theorem settled {handle : Handle} {source : String}
    (unmatched : DispatchOutcome.ofCall source false = .unmatched) (callback : Callback)
    (params : Params) : Even (StoryWorld.remember
      (world.write (.settled callback handle source params))
      (.dispatched handle source (.ok false))) := by
  intro metric counter
  have before := even metric counter
  simp [List.filterMap_cons, List.count_cons, Deed.metric?, Note.settled?, Note.declined?,
    Note.told?, unmatched] at before ⊢
  omega

end

theorem log_measure [Url.Names] {metric : Metric} (even : Even (world.measure metric))
    (event : Log.Event) : Even ((world.log event).measure metric) := by
  intro other counter
  have before := even other counter
  rw [World.total_measure] at before ⊢
  rwa [World.total_log]

/-- While the callback is being told, the dispatch is counted but not done. -/
theorem told [Url.Names] {handle : Handle} {source : String}
    (even : Even (StoryWorld.remember world (.dispatched handle source (.ok false))))
    (unmatched : DispatchOutcome.ofCall source false = .unmatched) (callback : Callback)
    (params : Params) : Even (world.write (.told callback handle source params)) := by
  intro metric counter
  have before := even metric counter
  simp [List.filterMap_cons, List.count_cons, Deed.metric?, Note.settled?, Note.declined?,
    Note.told?, unmatched] at before ⊢
  omega

end Even

end NotedWorld

end LinkRouting
