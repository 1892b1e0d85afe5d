import LinkRouting.Proofs.Url.Verbatim
import LinkRouting.Request.Basic

namespace LinkRouting.Request

variable {text : List Char}

theorem pathEnd_ofFragment_nil (plus : Bool) : (FragmentParts.ofFragment plus []).pathEnd = [] := by
  simp [FragmentParts.ofFragment, Text.cut]

theorem components_ofUrl (source : String) {url : Url} (options : Options) (params : Params)
    (hostless : url.host? = none) (plain : url.fragment = none) :
    (ofUrl source url options params).components = splitPath url.path := by
  have path : hostedPath options url = url.path := by
    simp only [hostedPath, hostless]
  simp only [ofUrl, path, plain, Option.getD_none, pathEnd_ofFragment_nil, List.append_nil]

/-- Where no piece is empty, no slash is at the end of the text. -/
theorem splitPath_cons (nonempty : [] ∉ text.splitOn '/') :
    splitPath ('/' :: text) = (text.splitOn '/').map String.ofList := by
  have first : ∀ c ∈ text.head?, (c == '/') = false := by
    intro c found
    cases text with
    | nil => cases found
    | cons d rest =>
        cases found
        rw [beq_eq_false_iff_ne]
        rintro rfl
        refine nonempty ?_
        rw [List.splitOn_cons_eq_if_modifyHead, if_pos (beq_self_eq_true '/')]
        exact List.mem_cons_self
  have last : ∀ c ∈ text.getLast?, (c == '/') = false := by
    intro c found
    obtain ⟨before, rfl⟩ := List.getLast?_eq_some_iff.mp found
    rw [beq_eq_false_iff_ne]
    rintro rfl
    refine nonempty ?_
    rw [List.splitOn_append_cons_self, List.splitOn_nil]
    exact List.mem_append_right _ List.mem_cons_self
  have some : text.isEmpty = false := by
    rw [List.isEmpty_eq_false_iff]
    rintro rfl
    exact nonempty List.mem_cons_self
  have inner : Text.trimBoth (· == '/') ('/' :: text) = text := Text.trimBoth_of_ends first last
  simp only [splitPath, inner, some, Bool.false_eq_true, if_false]

theorem parse_of_verbatim [Url.Names] {scheme : String} (named : Url.IsScheme scheme.toList)
    (free : Url.SchemeKind.ofScheme scheme.toLower = .other) (verbatim : Url.Verbatim text)
    (options : Options) (params : Params) : ∃ request : Request,
      parse (scheme ++ ":///" ++ String.ofList text) options params = .ok request ∧
        request.components = splitPath ('/' :: text) := by
  let url : Url := ⟨scheme.toLower, some ⟨[], [], none⟩, '/' :: text, none, none⟩
  have hostless : url.host? = none := rfl
  let source := scheme ++ ":///" ++ String.ofList text
  refine ⟨ofUrl source url options params, ?_, components_ofUrl source options params hostless rfl⟩
  rw [parse, Url.parse_of_verbatim named free verbatim]
  rfl

end LinkRouting.Request
