import LinkRouting.Matching
import LinkRouting.Proofs.Link
import LinkRouting.Proofs.Pattern.Canonical
import LinkRouting.Proofs.Spelling

namespace LinkRouting

/-- The name of a parameter, and whether its values are decoded. -/
def Segment.parameter? : Segment → Option (String × Bool)
  | .parameter name decoded => some (name, decoded)
  | _ => none

namespace PathPattern

def parameters (segments : List Segment) : List (String × Bool) :=
  segments.filterMap Segment.parameter?

/-- The texts of the segments, with a value for each parameter in its place. -/
def fill : List Segment → List String → List String
  | .literal text :: segments, values => text :: fill segments values
  | .parameter _ _ :: segments, value :: values => value :: fill segments values
  | _, _ => []

/-- What a parameter is bound to in a URL that is built with `value`. -/
def restored (parameter : String × Bool) (value : String) : String × String :=
  (parameter.1, if parameter.2 then value else escaped value)

variable {segments : List Segment} {values : List String}

/-- Looking for a percent sign first makes no difference. -/
theorem literalMatches_iff {text component : String} : literalMatches text component = true ↔
    text = component ∨ text = decodeComponent component false := by
  simp only [literalMatches, Bool.or_eq_true, Bool.and_eq_true, decide_eq_true_eq,
    List.contains_iff_mem]
  by_cases sign : '%' ∈ component.toList
  · simp only [sign, true_and]
  · have whole : decodeComponent component false = component :=
      decodeComponent_of_spelled (.self sign nofun)
    rw [whole]
    simp only [sign, false_and, or_false, or_self]

theorem literalMatches_escaped (text : String) : literalMatches text (escaped text) = true :=
  literalMatches_iff.mpr (.inr (decodeComponent_escaped text false).symm)

theorem length_fill (plain : .wildcard ∉ segments)
    (complete : values.length = (parameters segments).length) :
    (fill segments values).length = segments.length := by
  induction segments generalizing values with
  | nil => rfl
  | cons segment rest ih =>
      have later : .wildcard ∉ rest := fun member => plain (List.mem_cons_of_mem segment member)
      cases segment with
      | literal text => exact congrArg (· + 1) (ih later complete)
      | parameter name decoded =>
          cases values with
          | nil => cases complete
          | cons value others => exact congrArg (· + 1) (ih later (Nat.succ.inj complete))
      | wildcard => exact absurd List.mem_cons_self plain

theorem mem_fill {text : String} (member : text ∈ fill segments values) :
    .literal text ∈ segments ∨ text ∈ values := by
  induction segments generalizing values with
  | nil => cases values <;> cases member
  | cons segment rest ih =>
      cases segment with
      | literal own =>
          rcases List.mem_cons.mp member with rfl | later
          · exact .inl List.mem_cons_self
          · exact (ih later).imp_left (List.mem_cons_of_mem _)
      | parameter name decoded =>
          cases values with
          | nil => cases member
          | cons value others =>
              rcases List.mem_cons.mp member with rfl | later
              · exact .inr List.mem_cons_self
              · exact (ih later).imp (List.mem_cons_of_mem _) (List.mem_cons_of_mem _)
      | wildcard => cases values <;> cases member

theorem bindFixed_fill (plus : Bool) (plain : .wildcard ∉ segments)
    (complete : values.length = (parameters segments).length) :
    bindFixed plus segments ((fill segments values).map escaped) =
      some (List.zipWith restored (parameters segments) values) := by
  induction segments generalizing values with
  | nil => cases values <;> rfl
  | cons segment rest ih =>
      have later : .wildcard ∉ rest := fun member => plain (List.mem_cons_of_mem segment member)
      cases segment with
      | literal text =>
          have lined := ih later complete
          simp only [fill, List.map_cons, bindFixed, literalMatches_escaped, if_true, lined]
          rfl
      | parameter name decoded =>
          cases values with
          | nil => cases complete
          | cons value others =>
              have lined := ih later (Nat.succ.inj complete)
              simp only [fill, List.map_cons, bindFixed, decodeComponent_escaped, lined,
                Option.map_some]
              rfl
      | wildcard => exact absurd List.mem_cons_self plain

theorem ofToken_ne_wildcard (token : List Char) : Segment.ofToken token false ≠ .wildcard := by
  unfold Segment.ofToken
  split
  · split <;> simp
  · simp

theorem getLast?_classify {parts : List (List Char)} (member : .wildcard ∈ classify parts) :
    (classify parts).getLast? = some .wildcard := by
  induction parts with
  | nil => cases member
  | cons token rest ih =>
      cases rest with
      | nil =>
          have star : .wildcard = Segment.ofToken token true := List.mem_singleton.mp member
          rw [classify, ← star]
          rfl
      | cons next others =>
          have split : classify (token :: next :: others) =
              Segment.ofToken token false :: classify (next :: others) := rfl
          rw [split] at member
          rcases List.mem_cons.mp member with star | later
          · exact absurd star.symm (ofToken_ne_wildcard token)
          · rw [split, List.getLast?_cons, ih later]
            rfl

theorem literal_ne_empty {text : List Char} {literal : String}
    (member : .literal literal ∈ (ofChars text).segments) : literal ≠ "" := by
  have written : (Segment.literal literal).token ∈ tokens text := by
    rw [← map_token_classify (tokens text)]
    exact List.mem_map_of_mem member
  exact mt String.toList_eq_nil_iff.mpr (isToken_of_mem_tokens written).nonempty

theorem bind_of_plain {pattern : PathPattern} {request : Request}
    (plain : pattern.hasWildcard = false)
    (count : request.components.length = pattern.segments.length) : pattern.bind request =
      (bindFixed request.options.decodePlus pattern.segments request.components).map (⟨·, []⟩) := by
  have fixed : pattern.fixed = pattern.segments := if_neg (Bool.eq_false_iff.mp plain)
  unfold bind
  simp only [fixed, plain, count, Bool.false_eq_true, if_false, if_true]

end PathPattern

/-- A URL that is built from a pattern without wildcard gives back the values it was built with,
each as it was or, for parameters that are not decoded, as the URL spells it. -/
theorem bind_link [Url.Names] (source scheme : String) (values : List String)
    (plain : (PathPattern.ofString source).hasWildcard = false)
    (named : Url.IsScheme scheme.toList)
    (free : Url.SchemeKind.ofScheme scheme.toLower = .other)
    (complete : values.length =
      (PathPattern.parameters (PathPattern.ofString source).segments).length)
    (nonempty : ∀ value ∈ values, value ≠ "")
    (dotless : ∀ text ∈ PathPattern.fill (PathPattern.ofString source).segments values,
      text ≠ "." ∧ text ≠ "..")
    (options : Options) (params : Params) :
    let pattern := PathPattern.ofString source
    let texts := PathPattern.fill pattern.segments values
    ∃ request : Request, Request.parse (link scheme texts) options params = .ok request ∧
      request.components = texts.map escaped ∧
      pattern.bind request = some ⟨List.zipWith PathPattern.restored
        (PathPattern.parameters pattern.segments) values, []⟩ := by
  intro pattern texts
  have starless : .wildcard ∉ pattern.segments := by
    intro member
    have last := PathPattern.getLast?_classify member
    have star : pattern.hasWildcard = true := congrArg (Option.any Segment.isWildcard) last
    rw [plain] at star
    cases star
  have nonemptyTexts : ∀ text ∈ texts, text ≠ "" := by
    intro text member
    rcases PathPattern.mem_fill member with literal | value
    · exact PathPattern.literal_ne_empty literal
    · exact nonempty text value
  obtain ⟨request, parsed, components⟩ :=
    Request.parse_link named free nonemptyTexts dotless options params
  have count : request.components.length = pattern.segments.length := by
    rw [components, List.length_map, PathPattern.length_fill starless complete]
  refine ⟨request, parsed, components, ?_⟩
  rw [PathPattern.bind_of_plain plain count, components,
    PathPattern.bindFixed_fill _ starless complete, Option.map_some]

theorem bind_link_reserved : ∃ request : Request,
    Request.parse "App:///user/50%25%20%2B%2F%3F%23%C3%BC/%26/caf%C3%A9" {} .empty = .ok request ∧
      request.components = ["user", "50%25%20%2B%2F%3F%23%C3%BC", "%26", "caf%C3%A9"] ∧
      (PathPattern.ofString "/user/:name/:raw#/café").bind request =
        some ⟨[("name", "50% +/?#ü"), ("raw", "%26")], []⟩ := by
  let source := "/user/:name/:raw#/café"
  let values := ["50% +/?#ü", "&"]
  have plain : (PathPattern.ofString source).hasWildcard = false := by decide
  have allowed : "App".toList.all Url.isSchemeChar = true := by decide
  have named : Url.IsScheme "App".toList := ⟨by decide, List.all_eq_true.mp allowed⟩
  have texts : PathPattern.fill (PathPattern.ofString source).segments values =
      ["user", "50% +/?#ü", "&", "café"] := by decide
  have dotless : ∀ text ∈ PathPattern.fill (PathPattern.ofString source).segments values,
      text ≠ "." ∧ text ≠ ".." := by
    rw [texts]
    decide
  have parameters : PathPattern.parameters (PathPattern.ofString source).segments =
      [("name", true), ("raw", false)] := by decide
  have spelled : link "App" ["user", "50% +/?#ü", "&", "café"] =
      "App:///user/50%25%20%2B%2F%3F%23%C3%BC/%26/caf%C3%A9" := by decide
  have pieces : ["user", "50% +/?#ü", "&", "café"].map escaped =
      ["user", "50%25%20%2B%2F%3F%23%C3%BC", "%26", "caf%C3%A9"] := by decide
  obtain ⟨request, parsed, components, bound⟩ := bind_link source "App" values plain named
    (by decide +kernel) (by rw [parameters]; rfl) (by decide) dotless {} .empty
  rw [texts, spelled] at parsed
  rw [texts, pieces] at components
  rw [parameters] at bound
  have restored : List.zipWith PathPattern.restored [("name", true), ("raw", false)] values =
      [("name", "50% +/?#ü"), ("raw", "%26")] := by decide
  rw [restored] at bound
  exact ⟨request, parsed, components, bound⟩

end LinkRouting
