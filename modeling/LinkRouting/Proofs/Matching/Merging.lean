import LinkRouting.Matching
import LinkRouting.Proofs.Dictionary

namespace LinkRouting.PathPattern

/-- What the parameters among the segments are bound to, in their order. -/
def assigned (pattern : PathPattern) (request : Request) : List (String × String) :=
  (pattern.fixed.zip request.components).filterMap fun (segment, component) =>
    match segment with
    | .parameter name decoded =>
        some (name,
          if decoded then decodeComponent component request.options.decodePlus else component)
    | _ => none

/-- The components behind those that the fixed segments line up with, for the wildcard. -/
def captured (pattern : PathPattern) (request : Request) : List String :=
  if pattern.hasWildcard then request.components.drop pattern.fixed.length else []

/-- Where the value of a parameter may come from, the highest layer first. -/
def layers (pattern : PathPattern) (scheme : String) (request : Request) (key : String) :
    List (Option ParamValue) :=
  [ if key = Params.patternKey then some (.text pattern.canonical) else none,
    if key = Params.urlKey then some (.text request.source) else none,
    if key = Params.schemeKey then some (.text scheme) else none,
    if key = Params.wildcardKey ∧ pattern.captured request ≠ [] then
      some (.list (pattern.captured request)) else none,
    ((pattern.assigned request).reverse.lookup key).map .text,
    request.query.get? key,
    request.additional.get? key ]

variable {pattern : PathPattern} {scheme key : String} {request : Request} {binding : Binding}
  {params : Params}

theorem bindFixed_eq {plus : Bool} {segments : List Segment} {components : List String}
    {assignments : List (String × String)}
    (bound : bindFixed plus segments components = some assignments) :
    assignments = (segments.zip components).filterMap fun (segment, component) =>
      match segment with
      | .parameter name decoded =>
          some (name, if decoded then decodeComponent component plus else component)
      | _ => none := by
  induction segments generalizing components assignments with
  | nil =>
      cases bound
      rfl
  | cons segment rest ih =>
      cases components with
      | nil =>
          cases bound
          rfl
      | cons component others =>
          cases segment with
          | literal text =>
              simp only [bindFixed] at bound
              split at bound
              · simpa using ih bound
              · cases bound
          | parameter name decoded =>
              obtain ⟨later, fits, rfl⟩ := Option.map_eq_some_iff.mp bound
              simp [← ih fits]
          | wildcard => cases bound

theorem bind_eq (bound : pattern.bind request = some binding) :
    binding = ⟨pattern.assigned request, pattern.captured request⟩ := by
  obtain ⟨_, lined⟩ := Option.ite_none_right_eq_some.mp bound
  obtain ⟨assignments, fits, rfl⟩ := Option.map_eq_some_iff.mp lined
  rw [bindFixed_eq fits]
  rfl

theorem reserved_nodup :
    [Params.patternKey, Params.urlKey, Params.schemeKey, Params.wildcardKey].Nodup := by
  decide

/-- The reserved keys differ, so it does not matter which of them is looked at first. -/
theorem get?_identity : (pattern.identity scheme request).get? key =
    (if key = Params.patternKey then some (.text pattern.canonical) else none).or
      ((if key = Params.urlKey then some (.text request.source) else none).or
        (if key = Params.schemeKey then some (.text scheme) else none)) := by
  have distinct := reserved_nodup
  simp only [List.nodup_cons, List.mem_cons, not_or] at distinct
  obtain ⟨⟨patternUrl, patternScheme, _⟩, ⟨urlScheme, _⟩, _⟩ := distinct
  simp only [identity, Dictionary.get?_insert, Dictionary.get?_empty]
  by_cases first : key = Params.patternKey
  · simp [first, patternUrl, patternScheme]
  · by_cases second : key = Params.urlKey
    · simp [second, urlScheme, Ne.symm patternUrl]
    · simp [first, second]

theorem get?_params : (pattern.params scheme request binding).get? key =
    ((pattern.identity scheme request).get? key).or
      ((if key = Params.wildcardKey ∧ binding.captured ≠ [] then some (.list binding.captured)
        else none).or
        (((binding.assignments.reverse.lookup key).map .text).or
          ((request.query.get? key).or (request.additional.get? key)))) := by
  unfold params
  rw [Dictionary.get?_overlay]
  congr 1
  have bound := (request.additional.overlay request.query).get?_foldl_insert ParamValue.text
    binding.assignments key
  rw [Dictionary.get?_overlay] at bound
  cases captures : binding.captured with
  | nil => simpa using bound
  | cons first others =>
      by_cases here : key = Params.wildcardKey
      · simp [Dictionary.get?_insert, here]
      · simpa [Dictionary.get?_insert, here] using bound

theorem pattern?_params : (pattern.params scheme request binding).pattern? =
    some pattern.canonical := by
  rw [Params.pattern?, Params.text?, get?_params, get?_identity, if_pos rfl]
  rfl

theorem get?_params_url : (pattern.params scheme request binding).get? Params.urlKey =
    some (.text request.source) := by
  rw [get?_params, get?_identity]
  rfl

theorem scheme?_params : (pattern.params scheme request binding).scheme? = some scheme := by
  rw [Params.scheme?, Params.text?, get?_params, get?_identity]
  rfl

theorem findSome?_id_cons (first : Option α) (rest : List (Option α)) :
    (first :: rest).findSome? id = first.or (rest.findSome? id) := by
  cases first <;> rfl

theorem get?_of_respond (matched : pattern.respond scheme request = some params) (key : String) :
    params.get? key = (pattern.layers scheme request key).findSome? id := by
  obtain ⟨binding, bound, rfl⟩ := Option.map_eq_some_iff.mp matched
  cases bind_eq bound
  rw [get?_params, get?_identity]
  simp only [layers, findSome?_id_cons, List.findSome?_nil, Option.or_none, Option.or_assoc]

/-- Each parameter has the value of the highest layer that has one for it, and parameters for
which no layer has one are absent.  The identity of the route is above all other layers. -/
theorem respond_layered (matched : pattern.respond scheme request = some params) :
    (∀ key, params.get? key = (pattern.layers scheme request key).findSome? id) ∧
    (∀ key, params.get? key = none ↔ ∀ layer ∈ pattern.layers scheme request key, layer = none) ∧
    params.get? Params.patternKey = some (.text pattern.canonical) ∧
    params.get? Params.urlKey = some (.text request.source) ∧
    params.get? Params.schemeKey = some (.text scheme) := by
  have found := get?_of_respond matched
  refine ⟨found, fun key => ?_, ?_, ?_, ?_⟩
  · rw [found key, List.findSome?_eq_none_iff]
    rfl
  · rw [found Params.patternKey]
    rfl
  · rw [found Params.urlKey]
    rfl
  · rw [found Params.schemeKey]
    rfl

/-- A request for which every layer has something under the name of another. -/
def collidingRequest : Request where
  source := "app:/1/2/3/4?x=5&y=6"
  url := ⟨"app", none, "/1/2/3/4".toList, some "x=5&y=6".toList, none⟩
  options := {}
  additional := .ofList [("x", .text "7"), ("y", .text "8"), ("z", .text "9")]
  components := ["1", "2", "3", "4"]
  query := .ofList [("x", .text "5"), ("y", .text "6")]

theorem respond_collidingRequest :
    let pattern : PathPattern := .ofString "/:x/:x/:route_scheme/*"
    ∃ params, pattern.respond "app" collidingRequest = some params ∧
      params.get? "x" = some (.text "2") ∧ params.get? "y" = some (.text "6") ∧
      params.get? "z" = some (.text "9") ∧ params.get? "route_scheme" = some (.text "app") ∧
      params.get? "route_wildcard_components" = some (.list ["4"]) := by
  intro pattern
  have answers : (pattern.respond "app" collidingRequest).isSome := by decide
  obtain ⟨params, matched⟩ := Option.isSome_iff_exists.mp answers
  obtain ⟨found, _, _, _, identity⟩ := respond_layered matched
  refine ⟨params, matched, (found _).trans ?_, (found _).trans ?_, (found _).trans ?_, identity,
    (found _).trans ?_⟩ <;> decide

theorem isSome_lookup_reverse_iff (entries : List (String × String)) :
    (entries.reverse.lookup key).isSome ↔ key ∈ entries.map (·.1) := by
  rw [List.lookup_isSome_iff, List.mem_map]
  refine exists_congr fun entry => ?_
  rw [List.mem_reverse, beq_iff_eq, eq_comm (b := entry.1)]

/-- What is read as the captured components.  If nothing is captured, that is what a lower layer
has under their key. -/
theorem respond_wildcard? (matched : pattern.respond scheme request = some params) :
    params.wildcard? =
      if pattern.captured request ≠ [] then some (pattern.captured request)
      else if Params.wildcardKey ∈ (pattern.assigned request).map (·.1) then none
      else ((request.query.get? Params.wildcardKey).or
        (request.additional.get? Params.wildcardKey)).bind ParamValue.list? := by
  have distinct := reserved_nodup
  simp only [List.nodup_cons, List.mem_cons, not_or] at distinct
  obtain ⟨⟨_, _, notPattern, _⟩, ⟨_, notUrl, _⟩, ⟨notScheme, _⟩, _⟩ := distinct
  have layered := get?_of_respond matched Params.wildcardKey
  simp only [layers, findSome?_id_cons, List.findSome?_nil, Option.or_none, Ne.symm notPattern,
    Ne.symm notUrl, Ne.symm notScheme, if_false, Option.none_or, true_and] at layered
  rw [Params.wildcard?, layered]
  by_cases captures : pattern.captured request = []
  · rw [if_neg (by simp [captures]), if_neg (by simp [captures]), Option.none_or]
    cases last : (pattern.assigned request).reverse.lookup Params.wildcardKey with
    | none =>
        have unnamed : Params.wildcardKey ∉ (pattern.assigned request).map (·.1) := by
          rw [← isSome_lookup_reverse_iff, last]
          exact Bool.false_ne_true
        rw [if_neg unnamed]
        rfl
    | some value =>
        -- A parameter of the path is a text, so it hides every list below it.
        have named : Params.wildcardKey ∈ (pattern.assigned request).map (·.1) := by
          rw [← isSome_lookup_reverse_iff, last]
          rfl
        rw [if_pos named]
        rfl
  · rw [if_pos captures, if_pos captures]
    rfl

/-- Components captured at the end are read, whatever the query has under their key. -/
theorem respond_wildcard?_captured :
    let source := "app://files/x/y?route_wildcard_components=a&route_wildcard_components=b"
    let pattern : PathPattern := .ofString "/files/*"
    ∃ request params, (Request.parse source {} .empty).toOption = some request ∧
      pattern.respond "app" request = some params ∧ params.wildcard? = some ["x", "y"] := by
  intro source pattern
  have read : ((Request.parse source {} .empty).toOption.map fun request =>
      (pattern.captured request, (pattern.respond "app" request).isSome)) =
        some (["x", "y"], true) := by
    decide
  obtain ⟨request, parsed, reading⟩ := Option.map_eq_some_iff.mp read
  obtain ⟨captures, answers⟩ := Prod.mk.inj reading
  obtain ⟨params, matched⟩ := Option.isSome_iff_exists.mp answers
  refine ⟨request, params, parsed, matched, ?_⟩
  rw [respond_wildcard? matched, captures]
  rfl

/-- A query can pass a list off as captured, by a route with a wildcard that captures nothing. -/
theorem wildcard?_forged :
    let source := "app://files?route_wildcard_components=a&route_wildcard_components=b"
    let pattern : PathPattern := .ofString "/files/*"
    ∃ request params, (Request.parse source {} .empty).toOption = some request ∧
      pattern.respond "app" request = some params ∧ pattern.captured request = [] ∧
      params.wildcard? = some ["a", "b"] := by
  intro source pattern
  have read : ((Request.parse source {} .empty).toOption.map fun request =>
      (pattern.captured request, (pattern.respond "app" request).map Params.wildcard?)) =
        some ([], some (some ["a", "b"])) := by
    decide +kernel
  obtain ⟨request, parsed, reading⟩ := Option.map_eq_some_iff.mp read
  obtain ⟨nothing, answered⟩ := Prod.mk.inj reading
  obtain ⟨params, matched, forged⟩ := Option.map_eq_some_iff.mp answered
  exact ⟨request, params, parsed, matched, nothing, forged⟩

end LinkRouting.PathPattern
