import LinkRouting.Proofs.Dispatch.Query
import LinkRouting.Proofs.Query

namespace LinkRouting

variable {Handler Callback State : Type}

/-- Two URLs that can differ in their queries, and in what no request reads of the authority. -/
structure Url.SamePath (url other : Url) : Prop where
  host : url.host? = other.host?
  path : url.path = other.path
  fragment : url.fragment = other.fragment

theorem FragmentParts.pathEnd_ofFragment (plus other : Bool) (fragment : List Char) :
    (ofFragment plus fragment).pathEnd = (ofFragment other fragment).pathEnd := by
  simp only [ofFragment, Query.meant_congr (Query.outline_items plus other _)]

theorem FragmentParts.outline_ofFragment (plus other : Bool) (fragment : List Char) :
    (ofFragment plus fragment).items.map Query.outline =
      (ofFragment other fragment).items.map Query.outline := by
  simp only [ofFragment, Query.meant_congr (Query.outline_items plus other _)]
  split
  all_goals
    split
    · exact Query.outline_items plus other _
    · rfl

namespace Request

variable {url other : Url} {options : Options} {source variant : String} {given added : Params}

theorem components_of_samePath (same : url.SamePath other) (plus : Bool) :
    (ofUrl source url options given).components =
      (ofUrl variant other { options with decodePlus := plus } added).components := by
  simp only [ofUrl, hostedPath, same.host, same.path, same.fragment,
    FragmentParts.pathEnd_ofFragment options.decodePlus plus]

theorem kind_query (query : url.query = other.query) (fragment : url.fragment = other.fragment)
    (plus : Bool) : (ofUrl source url options given).query.mapValues ParamValue.kind =
      (ofUrl variant other { options with decodePlus := plus } added).query.mapValues
        ParamValue.kind := by
  apply Query.kind_params
  rw [List.map_append, List.map_append, query, fragment,
    FragmentParts.outline_ofFragment options.decodePlus plus,
    Query.outline_items options.decodePlus plus]

end Request

/-- The names that are bound, in their order, and what the wildcard captures. -/
def Binding.outline (binding : Binding) : List String × List String :=
  (binding.assignments.map (·.1), binding.captured)

namespace PathPattern

variable {request other : Request}

theorem names_bindFixed (plus variant : Bool) (segments : List Segment)
    (components : List String) :
    (bindFixed plus segments components).map (List.map Prod.fst) =
      (bindFixed variant segments components).map (List.map Prod.fst) := by
  induction segments generalizing components with
  | nil => rfl
  | cons segment rest ih =>
      cases components with
      | nil => cases segment <;> rfl
      | cons component others =>
          cases segment with
          | literal text =>
              simp only [bindFixed]
              split
              · exact ih others
              · rfl
          | parameter name decoded =>
              have later := congrArg (Option.map (name :: ·)) (ih others)
              simpa only [bindFixed, Option.map_map, Function.comp_def, List.map_cons] using later
          | wildcard => rfl

theorem outline_bind (pattern : PathPattern) (same : request.components = other.components) :
    (pattern.bind request).map Binding.outline = (pattern.bind other).map Binding.outline := by
  have lined (captured : List String) :
      ((bindFixed request.options.decodePlus pattern.fixed other.components).map
        (Binding.mk · captured)).map Binding.outline =
      ((bindFixed other.options.decodePlus pattern.fixed other.components).map
        (Binding.mk · captured)).map Binding.outline := by
    have names := congrArg (Option.map (·, captured)) (names_bindFixed request.options.decodePlus
      other.options.decodePlus pattern.fixed other.components)
    rw [Option.map_map, Option.map_map] at names ⊢
    exact names
  unfold bind
  rw [same]
  cases pattern.hasWildcard with
  | true =>
      simp only [if_true]
      split
      · exact lined _
      · rfl
  | false =>
      simp only [Bool.false_eq_true, if_false]
      split
      · exact lined _
      · rfl

theorem bind_congr (pattern : PathPattern) (same : request.components = other.components)
    (plus : request.options.decodePlus = other.options.decodePlus) :
    pattern.bind request = pattern.bind other := by
  unfold bind
  rw [same, plus]

end PathPattern

namespace Route

variable {request other : Request}

/-- The candidate that matches, and what it binds. -/
def choice? (route : Route Handler) (request : Request) : Option (PathPattern × Binding) :=
  route.candidates.findSome? fun candidate => (candidate.bind request).map (candidate, ·)

theorem respond_eq_choice? (route : Route Handler) (request : Request) : route.respond request =
    (route.choice? request).map fun choice => choice.1.params route.scheme request choice.2 := by
  unfold respond choice?
  induction route.candidates with
  | nil => rfl
  | cons candidate rest ih =>
      rw [List.findSome?_cons, List.findSome?_cons, PathPattern.respond]
      cases candidate.bind request with
      | none => exact ih
      | some binding => rfl

theorem outline_choice? (route : Route Handler) (same : request.components = other.components) :
    (route.choice? request).map (Prod.map id Binding.outline) =
      (route.choice? other).map (Prod.map id Binding.outline) := by
  unfold choice?
  induction route.candidates with
  | nil => rfl
  | cons candidate rest ih =>
      have bound := candidate.outline_bind same
      rw [List.findSome?_cons, List.findSome?_cons]
      cases first : candidate.bind request with
      | none =>
          rw [first] at bound
          rw [Option.map_eq_none_iff.mp bound.symm]
          exact ih
      | some binding =>
          rw [first] at bound
          obtain ⟨also, found, outline⟩ := Option.map_eq_some_iff.mp bound.symm
          rw [found]
          simp [outline]

/-- What is answered bears the name of the candidate that matches. -/
theorem pattern?_respond (route : Route Handler) (same : request.components = other.components) :
    (route.respond request).map Params.pattern? = (route.respond other).map Params.pattern? := by
  have named := congrArg (Option.map fun choice => some choice.1.canonical)
    (route.outline_choice? same)
  simp only [respond_eq_choice?, Option.map_map, Function.comp_def, PathPattern.pattern?_params]
  simpa only [Option.map_map, Function.comp_def, Prod.map, id_eq] using named

theorem isSome_respond_congr (route : Route Handler)
    (same : request.components = other.components) :
    (route.respond request).isSome = (route.respond other).isSome := by
  have matched := congrArg Option.isSome (route.outline_choice? same)
  simpa only [respond_eq_choice?, Option.isSome_map] using matched

end Route

namespace World

variable {world : World Handler Callback State} {source variant : String} {url other : Url}
  {given added : Params}

theorem canRoute_of_samePath [Url.Names] (handle : Handle) (parsed : Url.parse source = .ok url)
    (reparsed : Url.parse variant = .ok other) (same : url.SamePath other) (plus : Bool) :
    (world.canRoute handle source given).1 =
      ((world.setDecodePlus plus).canRoute handle variant added).1 := by
  have components : (world.request source url given).components =
      ((world.setDecodePlus plus).request variant other added).components :=
    Request.components_of_samePath same plus
  have matching (routes : List (Route Handler)) :
      anyMatches routes (world.request source url given) =
        anyMatches routes ((world.setDecodePlus plus).request variant other added) := by
    unfold anyMatches
    exact congrArg (List.any routes) (funext fun route => route.isSome_respond_congr components)
  have reach : (world.setDecodePlus plus).reach handle = world.reach handle := rfl
  rw [canRoute_of_ok parsed, canRoute_of_ok reparsed, ← anyMatches_eq, ← anyMatches_eq, matching,
    reach]

theorem handleFor_of_scheme [Url.Names] (parsed : Url.parse source = .ok url)
    (reparsed : Url.parse variant = .ok other) (scheme : url.scheme = other.scheme) (plus : Bool) :
    (world.setDecodePlus plus).registry.handleFor variant = world.registry.handleFor source := by
  simp only [Registry.handleFor, parsed, reparsed, scheme]
  rfl

end World

/-- Two requests for the same path come to the same, whatever their queries and parameters are and
whether plus signs are decoded or not. -/
theorem path_decides [Url.Names] (world : World Handler Callback State) {source variant : String}
    {url other : Url} (parsed : Url.parse source = .ok url)
    (reparsed : Url.parse variant = .ok other) (same : url.SamePath other) (plus : Bool)
    (given added : Params) :
    let changed := world.setDecodePlus plus
    let request := world.request source url given
    let another := changed.request variant other added
    request.components = another.components ∧
      (url.query = other.query →
        request.query.mapValues ParamValue.kind = another.query.mapValues ParamValue.kind) ∧
      (∀ pattern : PathPattern, (pattern.bind request).map Binding.outline =
        (pattern.bind another).map Binding.outline) ∧
      (∀ route : Route Handler,
        (∀ asked, route.respond asked = (route.choice? asked).map fun choice =>
          choice.1.params route.scheme asked choice.2) ∧
        (route.choice? request).map (Prod.map id Binding.outline) =
          (route.choice? another).map (Prod.map id Binding.outline) ∧
        (route.respond request).map Params.pattern? =
          (route.respond another).map Params.pattern? ∧
        (route.respond request).isSome = (route.respond another).isSome) ∧
      (plus = world.registry.options.decodePlus →
        ∀ pattern : PathPattern, pattern.bind request = pattern.bind another) ∧
      (∀ handle, (world.canRoute handle source given).1 =
        (changed.canRoute handle variant added).1) ∧
      (url.scheme = other.scheme → (world.canRouteAny source given).1 =
        (changed.canRouteAny variant added).1) := by
  intro changed request another
  have components : request.components = another.components :=
    Request.components_of_samePath same plus
  refine ⟨components, fun query => Request.kind_query query same.fragment plus,
    fun pattern => pattern.outline_bind components,
    fun route => ⟨route.respond_eq_choice?, route.outline_choice? components,
      route.pattern?_respond components, route.isSome_respond_congr components⟩,
    fun unchanged pattern => pattern.bind_congr components unchanged.symm,
    fun handle => World.canRoute_of_samePath handle parsed reparsed same plus, fun scheme => ?_⟩
  unfold World.canRouteAny
  rw [World.handleFor_of_scheme parsed reparsed scheme plus]
  exact World.canRoute_of_samePath _ parsed reparsed same plus

theorem path_decides_plus :
    let world : World Unit Unit Unit := (World.addRoute (.fresh {} ()) ⟨"app"⟩
      ⟨"", "/user/:id", 0, [.ofString "/user/:id"], none⟩).2
    let changed := world.setDecodePlus false
    let added : Params := .ofList [("id", .text "7")]
    (world.canRoute ⟨"app"⟩ "app://user/a+b?k=c+d" .empty).1 = true ∧
      (changed.canRoute ⟨"app"⟩ "app://user/a+b?k=c+d&m=1" added).1 = true := by
  intro world changed added
  let url (query : String) : Url :=
    ⟨"app", some ⟨[], "user".toList, none⟩, "/a+b".toList, some query.toList, none⟩
  have parsed : Url.parse "app://user/a+b?k=c+d" = .ok (url "k=c+d") := by rfl
  have reparsed : Url.parse "app://user/a+b?k=c+d&m=1" = .ok (url "k=c+d&m=1") := by rfl
  obtain ⟨_, _, _, _, _, same, _⟩ :=
    path_decides world parsed reparsed ⟨rfl, rfl, rfl⟩ false .empty added
  have found : (world.canRoute ⟨"app"⟩ "app://user/a+b?k=c+d" .empty).1 = true := by
    decide
  exact ⟨found, (same ⟨"app"⟩).symm.trans found⟩

end LinkRouting
