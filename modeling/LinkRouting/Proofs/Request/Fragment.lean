import LinkRouting.Proofs.Query.Values

namespace LinkRouting

/-! Which part of a fragment goes to the path and which to the query.  The text before a question
mark is a path, with one exception: a path that is spelled like the query behind it is taken for
that query.
-/

namespace FragmentParts

variable {plus : Bool} {fragment before behind : List Char}

theorem queryText_of_whole (absent : '?' ∉ fragment) : queryText fragment = fragment := by
  rw [queryText, Text.cut_of_not_mem absent, Option.getD_none]

theorem queryText_of_cut (absent : '?' ∉ before) :
    queryText (before ++ '?' :: behind) = behind := by
  rw [queryText, Text.cut_append absent, Option.getD_some]

/-- What a fragment adds to the path: a hash and the text before its first question mark, unless
nothing is there or the same text is its query. -/
def extension (fragment : List Char) : List Char :=
  let path := (Text.cut '?' fragment).1
  let query := queryText fragment
  if path = [] ∨ Query.leads (Query.pieces query) ∧ path = query then [] else '#' :: path

theorem pathEnd_eq_extension (plus : Bool) (fragment : List Char) :
    (ofFragment plus fragment).pathEnd = extension fragment := by
  unfold ofFragment extension queryText
  cases halves : Text.cut '?' fragment with
  | mk path query =>
      cases query with
      | none =>
          obtain ⟨same, _⟩ := Text.cut_none halves
          simp only [same, Query.meant_items, Option.getD_none, Bool.or_eq_true, Bool.and_eq_true,
            beq_iff_eq, List.isEmpty_iff]
      | some query =>
          simp only [Query.meant_items, Option.getD_some, Bool.or_eq_true, Bool.and_eq_true,
            beq_iff_eq, List.isEmpty_iff]

theorem pathEnd_of_whole (absent : '?' ∉ fragment) : (ofFragment plus fragment).pathEnd =
    if fragment = [] ∨ Query.leads (Query.pieces fragment) then [] else '#' :: fragment := by
  simp only [pathEnd_eq_extension, extension, queryText_of_whole absent, Text.cut_of_not_mem absent,
    and_true]

theorem pathEnd_of_cut (absent : '?' ∉ before) :
    (ofFragment plus (before ++ '?' :: behind)).pathEnd =
      if before = [] ∨ Query.leads (Query.pieces behind) ∧ before = behind then []
      else '#' :: before := by
  simp only [pathEnd_eq_extension, extension, queryText_of_cut absent, Text.cut_append absent]

end FragmentParts

namespace Request

/-- A fragment without a question mark is a query or a path, and any other is a path and, if that
is one, a query.  The path is lost only if the query is the same text. -/
theorem fragment_divided {url : Url} {fragment : List Char} (written : url.fragment = some fragment)
    (nonempty : fragment ≠ []) (source : String) (options : Options) (given : Params) :
    let request := ofUrl source url options given
    let path := hostedPath options url
    let items := Query.items options.decodePlus
    let query := items (url.query.getD [])
    ('?' ∉ fragment →
      if Query.leads (Query.pieces fragment) then
        request.components = splitPath path ∧
          request.query = Query.params (query ++ items fragment)
      else
        request.components = splitPath (path ++ '#' :: fragment) ∧
          request.query = Query.params query) ∧
    ∀ before behind, '?' ∉ before → fragment = before ++ '?' :: behind →
      (if before = [] ∨ Query.leads (Query.pieces behind) ∧ before = behind then
        request.components = splitPath path
      else request.components = splitPath (path ++ '#' :: before)) ∧
      if Query.leads (Query.pieces behind) then
        request.query = Query.params (query ++ items behind)
      else request.query = Query.params query := by
  intro request path items query
  have components : request.components =
      splitPath (path ++ (FragmentParts.ofFragment options.decodePlus fragment).pathEnd) := by
    simp only [request, ofUrl, written, Option.getD_some, path]
  have params : request.query = Query.params
      (query ++ (FragmentParts.ofFragment options.decodePlus fragment).items) := by
    simp only [request, ofUrl, written, Option.getD_some, query, items]
  rw [components, params, FragmentParts.items_ofFragment]
  refine ⟨fun absent => ?_, fun before behind absent split => ⟨?_, ?_⟩⟩
  · rw [FragmentParts.pathEnd_of_whole absent, FragmentParts.queryText_of_whole absent]
    by_cases leads : Query.leads (Query.pieces fragment) = true
    · rw [if_pos leads, if_pos leads, if_pos (.inr leads), List.append_nil]
      exact ⟨rfl, rfl⟩
    · rw [if_neg leads, if_neg leads, if_neg (not_or.mpr ⟨nonempty, leads⟩), List.append_nil]
      exact ⟨rfl, rfl⟩
  · rw [split, FragmentParts.pathEnd_of_cut absent]
    split
    · rw [List.append_nil]
    · rfl
  · rw [split, FragmentParts.queryText_of_cut absent]
    split
    · rfl
    · rw [List.append_nil]

theorem fragment_divided_routed : ∃ request, parse "app://x?a=1#/b?c=2" {} .empty = .ok request ∧
    request.components = ["x", "#", "b"] ∧
      request.query = Query.params [("a", some "1"), ("c", some "2")] := by
  let url : Url := ⟨"app", some ⟨[], "x".toList, none⟩, [], some "a=1".toList,
    some "/b?c=2".toList⟩
  have parsed : Url.parse "app://x?a=1#/b?c=2" = .ok url := by rfl
  have written : url.fragment = some "/b?c=2".toList := rfl
  obtain ⟨_, divided⟩ := fragment_divided written (by decide) "app://x?a=1#/b?c=2" {} .empty
  obtain ⟨path, query⟩ := divided "/b".toList "c=2".toList (by decide) rfl
  have kept : ¬("/b".toList = [] ∨ Query.leads (Query.pieces "c=2".toList) = true ∧
      "/b".toList = "c=2".toList) := by decide
  have leads : Query.leads (Query.pieces "c=2".toList) = true := by decide
  rw [if_neg kept] at path
  rw [if_pos leads] at query
  refine ⟨_, by rw [parse, parsed]; rfl, path.trans (by decide +kernel),
    query.trans (by decide +kernel)⟩

/-- The path `a=1` of the fragment is not among the components, as it would be before any other
query. -/
theorem fragment_path_lost : ∃ request,
    (parse "app://x#a=1?a=1" {} .empty).toOption = some request ∧
      request.url.fragment = some ("a=1".toList ++ '?' :: "a=1".toList) ∧
      request.components = ["x"] ∧
      request.components ≠ splitPath (hostedPath {} request.url ++ '#' :: "a=1".toList) := by
  have read : ((parse "app://x#a=1?a=1" {} .empty).toOption.map fun request =>
      (request.url.fragment, request.components,
        splitPath (hostedPath {} request.url ++ '#' :: "a=1".toList))) =
      some (some "a=1?a=1".toList, ["x"], ["x", "#a=1"]) := by
    decide +kernel
  obtain ⟨request, parsed, reading⟩ := Option.map_eq_some_iff.mp read
  obtain ⟨fragment, rest⟩ := Prod.mk.inj reading
  obtain ⟨components, extended⟩ := Prod.mk.inj rest
  refine ⟨request, parsed, fragment, components, ?_⟩
  rw [components, extended]
  decide

end Request

end LinkRouting
