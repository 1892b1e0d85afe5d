import LinkRouting.Proofs.Matching.Merging
import LinkRouting.Proofs.Pattern.Candidates
import LinkRouting.Proofs.Pattern.Canonical
import LinkRouting.Route

namespace LinkRouting

/-! Which path pattern answers a request, when a pattern with optional groups stands for several.
The orders of the groups decide it: of all that meet the request, the one answers whose path
pattern speaks of the most components, and the earliest of those.
-/

section First

variable {α β : Type} {items : List α} {related : α → α → Prop}

theorem exists_first_of_pairwise {wanted : α → Prop} (ordered : items.Pairwise related)
    (present : ∃ a ∈ items, wanted a) :
    ∃ first ∈ items, wanted first ∧ ∀ other ∈ items, wanted other →
      other = first ∨ related first other := by
  induction items with
  | nil => simp at present
  | cons a rest ih =>
      obtain ⟨ahead, tail⟩ := List.pairwise_cons.mp ordered
      by_cases here : wanted a
      · refine ⟨a, List.mem_cons_self, here, fun other member _ => ?_⟩
        rcases List.mem_cons.mp member with same | later
        · exact .inl same
        · exact .inr (ahead other later)
      · obtain ⟨b, member, want⟩ := present
        have later : b ∈ rest := by
          rcases List.mem_cons.mp member with rfl | later
          · exact absurd want here
          · exact later
        obtain ⟨first, inside, found, leads⟩ := ih tail ⟨b, later, want⟩
        refine ⟨first, List.mem_cons_of_mem a inside, found, fun other among wish => ?_⟩
        rcases List.mem_cons.mp among with rfl | behind
        · exact absurd wish here
        · exact leads other behind wish

theorem findSome?_leads {f : α → Option β} {b : β} (ordered : items.Pairwise related)
    (found : items.findSome? f = some b) :
    ∃ a ∈ items, f a = some b ∧
      ∀ other ∈ items, (f other).isSome → other = a ∨ related a other := by
  obtain ⟨before, a, behind, rfl, answer, passed⟩ := List.findSome?_eq_some_iff.mp found
  obtain ⟨_, ahead, _⟩ := List.pairwise_append.mp ordered
  refine ⟨a, by simp, answer, fun other member answers => ?_⟩
  rcases List.mem_append.mp member with early | late
  · simp [passed other early] at answers
  · rcases List.mem_cons.mp late with same | later
    · exact .inl same
    · exact .inr ((List.pairwise_cons.mp ahead).1 other later)

end First

namespace Pattern

variable {count : Nat}

theorem Precedes.trans {first second third : List (Fin count)}
    (before : Precedes first second) (behind : Precedes second third) : Precedes first third := by
  rcases before with longer | ⟨length, before⟩
  · rcases behind with still | ⟨same, _⟩
    · exact .inl (Nat.lt_trans still longer)
    · exact .inl (same ▸ longer)
  · rcases behind with longer | ⟨same, behind⟩
    · exact .inl (length ▸ longer)
    · refine .inr ⟨length.trans same, ?_⟩
      rcases before with less | ⟨level, less⟩
      · rcases behind with again | ⟨equal, _⟩
        · exact .inl (List.lt_trans less again)
        · exact .inl (equal ▸ less)
      · rcases behind with less | ⟨equal, again⟩
        · exact .inl (level ▸ less)
        · exact .inr ⟨level.trans equal, List.lt_trans less again⟩

namespace Layout

/-- An order without repetition, for a text that is not blank, whose path pattern binds the
request. -/
structure Meets (layout : Layout) (request : Request) (order : List (Fin layout.groups.length))
    (binding : Binding) : Prop where
  distinct : order.Nodup
  visible : (layout.text order).all Text.isBlank = false
  bound : (PathPattern.ofChars (layout.text order)).bind request = some binding

/-- Orders are preferred for the size of their path patterns, and then as they come up. -/
def Outranks (layout : Layout) (order other : List (Fin layout.groups.length)) : Prop :=
  (PathPattern.ofChars (layout.text other)).size < (PathPattern.ofChars (layout.text order)).size ∨
    (PathPattern.ofChars (layout.text order)).size =
      (PathPattern.ofChars (layout.text other)).size ∧ Precedes order other

variable {layout : Layout} {order : List (Fin layout.groups.length)} {candidate : PathPattern}
  {request : Request} {binding : Binding}

theorem Meets.mem_visibleOrders (meets : layout.Meets request order binding) :
    order ∈ layout.visibleOrders :=
  Layout.mem_visibleOrders.mpr ⟨meets.distinct, meets.visible⟩

/-- Leaving out repeated spellings leaves out no path pattern. -/
theorem mem_candidates_iff : candidate ∈ layout.candidates ↔
    ∃ order ∈ layout.visibleOrders, .ofChars (layout.text order) = candidate := by
  constructor
  · intro member
    obtain ⟨order, spells, made⟩ := layout.made_of_mem_candidates member
    exact ⟨order, (spells_iff.mp spells).1, made.symm⟩
  · rintro ⟨order, visible, rfl⟩
    have spelled := layout.mem_candidates.mpr ⟨order, spells_iff.mpr ⟨visible, rfl⟩⟩
    obtain ⟨kept, member, written⟩ := List.mem_map.mp spelled
    obtain ⟨other, _, rfl⟩ := layout.made_of_mem_candidates member
    rwa [← PathPattern.ofChars_eq_of_canonical written]

theorem exists_first_order (member : candidate ∈ layout.candidates) :
    ∃ first ∈ layout.visibleOrders, .ofChars (layout.text first) = candidate ∧
      ∀ other ∈ layout.visibleOrders, .ofChars (layout.text other) = candidate →
        other = first ∨ Precedes first other :=
  exists_first_of_pairwise layout.pairwise_visibleOrders (mem_candidates_iff.mp member)

theorem outranks_of_ahead {first other : List (Fin layout.groups.length)}
    (earliest : ∀ again ∈ layout.visibleOrders,
      PathPattern.ofChars (layout.text again) = .ofChars (layout.text first) →
        again = first ∨ Precedes first again)
    (visible : other ∈ layout.visibleOrders)
    (ahead : let a := PathPattern.ofChars (layout.text first)
      let b := PathPattern.ofChars (layout.text other)
      b.size < a.size ∨ a.size = b.size ∧ ∃ start, layout.Spells start a.canonical ∧
        ∀ again, layout.Spells again b.canonical → Precedes start again) :
    layout.Outranks first other := by
  rcases ahead with smaller | ⟨level, start, spells, leads⟩
  · exact .inl smaller
  · refine .inr ⟨level, ?_⟩
    obtain ⟨among, written⟩ := spells_iff.mp spells
    have before := leads other (spells_iff.mpr ⟨visible, rfl⟩)
    rcases earliest start among (PathPattern.ofChars_eq_of_canonical written) with rfl | precedes
    · exact before
    · exact precedes.trans before

variable (layout)

/-- The first candidate to answer is that of the order which outranks all others that meet the
request. -/
theorem exists_leading_order {scheme : String} {params : Params}
    (answered : layout.candidates.findSome? (·.respond scheme request) = some params) :
    ∃ order binding, layout.Meets request order binding ∧
      .ofChars (layout.text order) ∈ layout.candidates ∧
      params = (PathPattern.ofChars (layout.text order)).params scheme request binding ∧
      ∀ other another, layout.Meets request other another →
        other = order ∨ layout.Outranks order other := by
  obtain ⟨candidate, member, answer, leads⟩ := findSome?_leads layout.pairwise_candidates answered
  obtain ⟨first, visible, rfl, earliest⟩ := exists_first_order member
  obtain ⟨binding, bound, rfl⟩ := Option.map_eq_some_iff.mp answer
  obtain ⟨distinct, seen⟩ := mem_visibleOrders.mp visible
  refine ⟨first, binding, ⟨distinct, seen, bound⟩, member, rfl, fun other another meets => ?_⟩
  have among := meets.mem_visibleOrders
  have answers : ((PathPattern.ofChars (layout.text other)).respond scheme request).isSome := by
    rw [PathPattern.respond, meets.bound]
    rfl
  rcases leads _ (mem_candidates_iff.mpr ⟨other, among, rfl⟩) answers with same | ahead
  · -- Both orders stand for the answering candidate, of which `first` is the earliest order.
    exact (earliest other among same).imp_right fun before => .inr ⟨by rw [same], before⟩
  · exact .inr (outranks_of_ahead earliest among ahead)

theorem answers_iff {scheme : String} :
    (layout.candidates.findSome? (·.respond scheme request)).isSome ↔
      ∃ order binding, layout.Meets request order binding := by
  constructor
  · intro answers
    obtain ⟨params, answered⟩ := Option.isSome_iff_exists.mp answers
    obtain ⟨order, binding, meets, _⟩ := layout.exists_leading_order answered
    exact ⟨order, binding, meets⟩
  · rintro ⟨order, binding, meets⟩
    refine List.findSome?_isSome_iff.mpr ⟨.ofChars (layout.text order), ?_, ?_⟩
    · exact mem_candidates_iff.mpr ⟨order, meets.mem_visibleOrders, rfl⟩
    · rw [PathPattern.respond, meets.bound]
      rfl

end Layout

end Pattern

namespace Route

open Pattern

/-- Whether a route matches depends on the path alone, and not on what the caller adds. -/
theorem isSome_respond {Handler : Type} (route : Route Handler) (request : Request) :
    (route.respond request).isSome =
      route.candidates.any fun candidate => (candidate.bind request).isSome := by
  rw [Bool.eq_iff_iff, respond, List.findSome?_isSome_iff, List.any_eq_true]
  simp only [PathPattern.respond, Option.isSome_map]

/-- A route whose pattern has optional groups matches if some order of the groups meets the
request.  It answers for the one order that outranks all others which do, with what the path
pattern of that order binds. -/
theorem respond_by_order {Handler : Type} {pattern : String} {priority : Nat}
    {handler : Option Handler} {read : Layout} {route : Route Handler}
    (found : layout pattern = .ok read) (grouped : read.groups ≠ [])
    (made : ofPattern pattern priority handler = .ok route) (scheme : String)
    (request : Request) :
    let registered : Route Handler := { route with scheme }
    ((registered.respond request).isSome ↔
      ∃ order binding, read.Meets request order binding) ∧
    ∀ params, registered.respond request = some params →
      ∃ order binding, read.Meets request order binding ∧
        let chosen := PathPattern.ofChars (read.text order)
        chosen ∈ route.candidates ∧ params = chosen.params scheme request binding ∧
          params.pattern? = some chosen.canonical ∧
          ∀ other another, read.Meets request other another →
            other = order ∨ read.Outranks order other := by
  intro registered
  obtain ⟨candidates, compiled, rfl⟩ : ∃ candidates, compile pattern = .ok candidates ∧
      ⟨"", pattern, priority, candidates, handler⟩ = route := by
    unfold ofPattern at made
    cases compiled : compile pattern with
    | error cause => simp [compiled, Except.map] at made
    | ok candidates => exact ⟨candidates, rfl, by simpa [compiled, Except.map] using made⟩
  obtain ⟨rfl, _⟩ := compile_candidates found grouped compiled
  refine ⟨read.answers_iff, fun params answered => ?_⟩
  obtain ⟨order, binding, meets, member, rfl, leads⟩ := read.exists_leading_order answered
  exact ⟨order, binding, meets, member, rfl, PathPattern.pattern?_params, leads⟩

/-- Two groups for one component each: the order that they are written in answers for a path with
both, though the other order meets it as well. -/
theorem respond_written_order :
    let read : Layout := ⟨"/a".toList, ["/:x".toList, "/:y".toList]⟩
    let request := Request.ofUrl "app:/a/1/2" ⟨"app", none, "/a/1/2".toList, none, none⟩ {} .empty
    ∃ (route : Route Unit) (params : Params),
      layout "/a(/:x)(/:y)" = .ok read ∧ read.groups ≠ [] ∧
      ofPattern "/a(/:x)(/:y)" 0 none = .ok route ∧
      ({ route with scheme := "app" }).respond request = some params ∧
      params.pattern? = some "/a/:x/:y" ∧
      params.get? "x" = some (.text "1") ∧ params.get? "y" = some (.text "2") := by
  intro read request
  have found : layout "/a(/:x)(/:y)" = .ok read := rfl
  have grouped : read.groups ≠ [] := by simp [read]
  obtain ⟨route, made⟩ : ∃ route : Route Unit, ofPattern "/a(/:x)(/:y)" 0 none = .ok route :=
    ⟨_, rfl⟩
  obtain ⟨answers, chosen⟩ := respond_by_order found grouped made "app" request
  have meets : read.Meets request [0, 1] ⟨[("x", "1"), ("y", "2")], []⟩ :=
    ⟨by decide, by decide, by decide⟩
  obtain ⟨params, answered⟩ := Option.isSome_iff_exists.mp (answers.mpr ⟨_, _, meets⟩)
  obtain ⟨order, binding, fits, _, rfl, named, leads⟩ := chosen params answered
  have unbeaten : ∀ other ∈ read.visibleOrders, ¬read.Outranks other [0, 1] := by
    unfold Layout.Outranks Precedes
    decide
  rcases leads _ _ meets with written | outranks
  · subst written
    obtain rfl := Option.some.inj (meets.bound.symm.trans fits.bound)
    exact ⟨route, _, found, grouped, made, answered, named, by decide, by decide⟩
  · exact absurd outranks (unbeaten order fits.mem_visibleOrders)

end Route

end LinkRouting
