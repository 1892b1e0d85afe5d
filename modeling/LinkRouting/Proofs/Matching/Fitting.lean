import LinkRouting.Proofs.Matching.Building
import LinkRouting.Proofs.Matching.Merging
import Mathlib.Data.List.Basic

namespace LinkRouting

namespace PathPattern

/-- A wildcard counts for any number of components, and every other segment for one.  Components
may spell a literal with escapes. -/
structure Fits (pattern : PathPattern) (components : List String) : Prop where
  count : if pattern.segments.getLast? = some .wildcard
    then pattern.size - 1 ≤ components.length else pattern.size = components.length
  literal : ∀ (position : Nat) (text : String),
    pattern.segments[position]? = some (.literal text) →
      ∃ component, components[position]? = some component ∧
        (text = component ∨ text = decodeComponent component false)

section Fixed

variable {pattern : PathPattern}

theorem hasWildcard_iff : pattern.hasWildcard = true ↔
    pattern.segments.getLast? = some .wildcard := by
  unfold hasWildcard
  cases pattern.segments.getLast? with
  | none => simp
  | some segment => cases segment <;> simp [Segment.isWildcard]

theorem fixed_append_wildcard (trailing : pattern.segments.getLast? = some .wildcard) :
    pattern.fixed ++ [.wildcard] = pattern.segments := by
  rw [fixed, if_pos (hasWildcard_iff.mpr trailing)]
  exact List.dropLast_append_getLast? _ trailing

theorem fixed_of_plain (plain : pattern.segments.getLast? ≠ some .wildcard) :
    pattern.fixed = pattern.segments :=
  if_neg (mt hasWildcard_iff.mp plain)

theorem length_fixed : pattern.fixed.length =
    if pattern.segments.getLast? = some .wildcard then pattern.size - 1 else pattern.size := by
  split
  · rename_i trailing
    rw [size, ← fixed_append_wildcard trailing, List.length_append]
    rfl
  · rename_i plain
    rw [fixed_of_plain plain, size]

theorem fixed_literal {position : Nat} {text : String} :
    pattern.fixed[position]? = some (.literal text) ↔
      pattern.segments[position]? = some (.literal text) := by
  by_cases trailing : pattern.segments.getLast? = some .wildcard
  · rw [← fixed_append_wildcard trailing, List.getElem?_append]
    split
    · rfl
    · rename_i beyond
      rw [List.getElem?_eq_none (Nat.le_of_not_lt beyond)]
      cases position - pattern.fixed.length <;> simp
  · rw [fixed_of_plain trailing]

theorem parameters_fixed : parameters pattern.fixed = parameters pattern.segments := by
  by_cases trailing : pattern.segments.getLast? = some .wildcard
  · rw [← fixed_append_wildcard trailing, parameters, parameters, List.filterMap_append]
    exact (List.append_nil _).symm
  · rw [fixed_of_plain trailing]

theorem wildcard_not_mem_dropLast (parts : List (List Char)) :
    .wildcard ∉ (classify parts).dropLast := by
  induction parts with
  | nil => exact List.not_mem_nil
  | cons token rest ih =>
      cases rest with
      | nil => exact List.not_mem_nil
      | cons next others =>
          have some : classify (next :: others) ≠ [] := by
            cases others <;> exact List.cons_ne_nil _ _
          rw [classify, List.dropLast_cons_of_ne_nil some, List.mem_cons, not_or]
          · exact ⟨(ofToken_ne_wildcard token).symm, ih⟩
          · exact List.cons_ne_nil next others

/-- Only the last token of a text can be its wildcard. -/
theorem wildcard_not_mem_fixed (text : List Char) : .wildcard ∉ (ofChars text).fixed := by
  by_cases trailing : (ofChars text).segments.getLast? = some .wildcard
  · rw [fixed, if_pos (hasWildcard_iff.mpr trailing)]
    exact wildcard_not_mem_dropLast (tokens text)
  · rw [fixed_of_plain trailing]
    exact fun member => trailing (getLast?_classify member)

end Fixed

theorem isSome_bindFixed_iff (plus : Bool) {segments : List Segment} {components : List String}
    (plain : .wildcard ∉ segments) (enough : segments.length ≤ components.length) :
    (bindFixed plus segments components).isSome ↔
      ∀ (position : Nat) (text : String), segments[position]? = some (.literal text) →
        ∃ component, components[position]? = some component ∧
          (text = component ∨ text = decodeComponent component false) := by
  induction segments generalizing components with
  | nil => simp [bindFixed]
  | cons segment rest ih =>
      cases components with
      | nil => cases enough
      | cons component others =>
          have later := ih (fun member => plain (List.mem_cons_of_mem segment member))
            (Nat.le_of_succ_le_succ enough)
          rw [← Nat.and_forall_add_one]
          simp only [List.getElem?_cons_zero, List.getElem?_cons_succ, ← later]
          cases segment with
          | literal own =>
              simp only [bindFixed, ← literalMatches_iff]
              split
              · rename_i matched
                simp [matched]
              · rename_i different
                simp [different]
          | parameter name decoded => simp [bindFixed]
          | wildcard => exact absurd List.mem_cons_self plain

theorem names_assigned {pattern : PathPattern} {request : Request}
    (enough : pattern.fixed.length ≤ request.components.length) :
    (pattern.assigned request).map Prod.fst = (parameters pattern.segments).map Prod.fst := by
  rw [← parameters_fixed, assigned]
  generalize pattern.fixed = segments at enough ⊢
  generalize request.components = components at enough ⊢
  induction segments generalizing components with
  | nil => rfl
  | cons segment rest ih =>
      cases components with
      | nil => cases enough
      | cons component others =>
          have later := ih others (Nat.le_of_succ_le_succ enough)
          cases segment with
          | literal text => exact later
          | parameter name decoded => exact congrArg (name :: ·) later
          | wildcard => exact later

section Bind

variable {pattern : PathPattern} {request : Request} {binding : Binding}

/-- The fixed segments need as many components as they are, or at least as many. -/
theorem count_iff (pattern : PathPattern) (count : Nat) :
    (if pattern.hasWildcard then pattern.fixed.length ≤ count else pattern.fixed.length = count) ↔
      if pattern.segments.getLast? = some .wildcard
        then pattern.size - 1 ≤ count else pattern.size = count := by
  rw [length_fixed]
  simp only [hasWildcard_iff]
  split <;> rfl

theorem enough_of_count {count : Nat} (counted : if pattern.segments.getLast? = some .wildcard
    then pattern.size - 1 ≤ count else pattern.size = count) : pattern.fixed.length ≤ count := by
  rw [length_fixed]
  split
  · rename_i trailing
    rwa [if_pos trailing] at counted
  · rename_i plain
    rw [if_neg plain] at counted
    exact Nat.le_of_eq counted

theorem isSome_bind_iff (starless : .wildcard ∉ pattern.fixed) :
    (pattern.bind request).isSome ↔ pattern.Fits request.components := by
  have counted := pattern.count_iff request.components.length
  have lined (enough : pattern.fixed.length ≤ request.components.length) :=
    isSome_bindFixed_iff request.options.decodePlus starless enough
  simp only [fixed_literal] at lined
  by_cases count : if pattern.segments.getLast? = some .wildcard
      then pattern.size - 1 ≤ request.components.length
      else pattern.size = request.components.length
  · rw [bind, if_pos (counted.mpr count), Option.isSome_map, lined (enough_of_count count)]
    exact ⟨fun literal => ⟨count, literal⟩, Fits.literal⟩
  · rw [bind, if_neg (mt counted.mp count)]
    exact ⟨nofun, fun fits => absurd fits.count count⟩

theorem captured_eq (pattern : PathPattern) (request : Request) : pattern.captured request =
    if pattern.segments.getLast? = some .wildcard
      then request.components.drop (pattern.size - 1) else [] := by
  rw [captured, length_fixed]
  simp only [hasWildcard_iff]
  split <;> rfl

end Bind

/-- Matching decides whether a path fits, and gives what stands in the places of the parameters
and of the wildcard.  The wildcard itself is never lined up with a component. -/
theorem bind_decides (text : String) (request : Request) :
    let pattern := ofString text
    ((pattern.bind request).isSome ↔ pattern.Fits request.components) ∧
      (∀ binding, pattern.bind request = some binding →
        binding.assignments = pattern.assigned request ∧
          binding.assignments.map Prod.fst = (parameters pattern.segments).map Prod.fst ∧
          binding.captured = if pattern.segments.getLast? = some .wildcard
            then request.components.drop (pattern.size - 1) else []) ∧
      .wildcard ∉ pattern.fixed ∧
      ∀ literal component, literalMatches literal component = true ↔
        literal = component ∨ literal = decodeComponent component false := by
  intro pattern
  have starless : .wildcard ∉ pattern.fixed := wildcard_not_mem_fixed text.toList
  have decided : _ ↔ pattern.Fits request.components := isSome_bind_iff starless
  refine ⟨decided, fun binding bound => ?_, starless, fun _ _ => literalMatches_iff⟩
  have fits := decided.mp (Option.isSome_of_mem bound)
  obtain rfl := bind_eq bound
  exact ⟨rfl, names_assigned (enough_of_count fits.count), captured_eq pattern request⟩

end PathPattern

end LinkRouting
