import LinkRouting.Proofs.Matching.Merging
import LinkRouting.Proofs.Pairing
import LinkRouting.Proofs.Url.Verbatim

namespace LinkRouting

variable {Handler Callback State α : Type}

namespace Url

variable {text other : List Char}

theorem isScheme_toLower : IsScheme (text.map Char.toLower) ↔ IsScheme text := by
  have letter (c : Char) : c.toLower.isAlpha = c.isAlpha :=
    Text.apply_toLower (by decide +kernel) c
  have allowed (c : Char) : isSchemeChar c.toLower = isSchemeChar c :=
    Text.apply_toLower (by decide +kernel) c
  constructor
  · rintro ⟨first, others⟩
    rw [List.head?_map, Option.any_map] at first
    simp only [letter] at first
    refine ⟨first, fun c member => ?_⟩
    rw [← allowed]
    exact others _ (List.mem_map_of_mem member)
  · rintro ⟨first, others⟩
    constructor
    · rw [List.head?_map, Option.any_map]
      simpa only [letter] using first
    · intro c member
      obtain ⟨upper, inside, rfl⟩ := List.mem_map.mp member
      rw [allowed]
      exact others upper inside

/-- Nothing is trimmed from a scheme. -/
theorem trimBoth_scheme (scheme : IsScheme text) (rest : List Char) :
    Text.trimBoth (fun c => c.toNat ≤ 0x20) (text ++ ':' :: rest) =
      text ++ ':' :: (rest.reverse.dropWhile fun c => c.toNat ≤ 0x20).reverse := by
  have whole : (text ++ ':' :: rest).dropWhile (fun c => c.toNat ≤ 0x20) = text ++ ':' :: rest := by
    rw [Text.dropWhile_append_cons (by decide), Text.dropWhile_of_head?]
    intro c found
    have visible := above_of_isSchemeChar (scheme.allowed c (List.mem_of_mem_head? found))
    exact decide_eq_false (by omega)
  rw [Text.trimBoth, whole, List.reverse_append, List.reverse_cons, List.append_assoc,
    List.singleton_append, Text.dropWhile_append_cons (by decide), List.reverse_append,
    List.reverse_cons, List.reverse_reverse, List.append_assoc, List.singleton_append]

/-- The same text but for the case of its scheme, if it begins with one. -/
def Recased (source variant : String) : Prop :=
  source = variant ∨ ∃ scheme other rest : String, IsScheme scheme.toList ∧
    scheme.toLower = other.toLower ∧ source = scheme ++ ":" ++ rest ∧
    variant = other ++ ":" ++ rest

theorem Recased.refl (source : String) : Recased source source :=
  .inl rfl

theorem parse_of_recased [Url.Names] {source variant : String} (recased : Recased source variant) :
    Url.parse source = Url.parse variant := by
  rcases recased with rfl | ⟨scheme, other, rest, named, lower, rfl, rfl⟩
  · rfl
  · have chars (text : String) :
        (text ++ ":" ++ rest).toList = text.toList ++ ':' :: rest.toList := by
      simp
    have same : scheme.toList.map Char.toLower = other.toList.map Char.toLower := by
      rw [← Text.toList_toLower, lower, Text.toList_toLower]
    have also : IsScheme other.toList := by
      rwa [← isScheme_toLower, ← same, isScheme_toLower]
    rw [Url.parse, Url.parse, chars, chars, trimBoth_scheme named, trimBoth_scheme also,
      splitScheme?_append named, splitScheme?_append also, same]

end Url

namespace Params

/-- The same parameters but for the text of a URL. -/
def Alike (params others : Params) : Prop :=
  ∀ key, key ≠ urlKey → params.get? key = others.get? key

theorem Alike.refl (params : Params) : params.Alike params :=
  fun _ _ => rfl

/-- The same parameters, each with the text of its own URL, whose schemes may differ in case. -/
structure Recased (params others : Params) : Prop where
  alike : params.Alike others
  urls : ∃ source variant, Url.Recased source variant ∧
    params.get? urlKey = some (.text source) ∧ others.get? urlKey = some (.text variant)

end Params

theorem PathPattern.recased_respond {source variant : String}
    (texts : Url.Recased source variant) {params others : Params} (given : params.Alike others)
    (candidate : PathPattern) (scheme : String) (url : Url) (options : Options) :
    Option.Rel Params.Recased
      (candidate.respond scheme (.ofUrl source url options params))
      (candidate.respond scheme (.ofUrl variant url options others)) := by
  -- The components are those of the URL, so what is bound is the same.
  have bound : candidate.bind (.ofUrl source url options params) =
      candidate.bind (.ofUrl variant url options others) := rfl
  rw [respond, respond, bound]
  cases candidate.bind (.ofUrl variant url options others) with
  | none => exact .none
  | some binding =>
      refine .some ⟨fun key other => ?_, source, variant, texts, get?_params_url, get?_params_url⟩
      have below : (Request.ofUrl source url options params).additional.get? key =
          (Request.ofUrl variant url options others).additional.get? key := given key other
      rw [get?_params, get?_params, get?_identity, get?_identity, if_neg other, if_neg other,
        below]
      rfl

/-- Names and URLs may differ in the case of schemes, and parameters in the texts of URLs. -/
def Pairing.recasing [Url.Names] : Pairing where
  names name other := name.toLower = other.toLower
  texts := Url.Recased
  given := Params.Alike
  asked := Params.Recased
  lower same := same
  parse := Url.parse_of_recased
  respond texts given := PathPattern.recased_respond texts given

/-- Handlers and callbacks that do not look at the text of a URL. -/
structure Conduct.Unseeing (conduct : Conduct Handler Callback State) : Prop where
  handle : ∀ handler params others, params.Alike others →
    conduct.handle handler params = conduct.handle handler others
  unmatched : ∀ callback handle source variant params others, params.Alike others →
    conduct.unmatched callback handle source params =
      conduct.unmatched callback handle variant others

theorem Conduct.Unseeing.recased [Url.Names] {conduct : Conduct Handler Callback State}
    (unseeing : conduct.Unseeing) : Pairing.recasing.Conducts Eq conduct conduct where
  handle handler params others asked := by
    rw [unseeing.handle handler params others asked.alike]
    exact .refl Url.Recased.refl Params.Alike.refl _
  unmatched callback handle source variant params others _ given := by
    rw [unseeing.unmatched callback handle source variant params others given]
    exact .refl Url.Recased.refl Params.Alike.refl _

/-- Of two runs that differ in the case in which schemes are named, and in nothing else that
programs, handlers and callbacks do of themselves, both come to the same. -/
theorem schemes_caseless [Url.Names] {conduct twin : Conduct Handler Callback State}
    (conducts : Pairing.recasing.Conducts Eq conduct twin)
    {program other : Program Handler Callback State α}
    (programs : Pairing.recasing.Programs Eq program other) (depth : Nat)
    (world : StoryWorld Handler Callback State) :
    let first := program.run (conduct.application depth) world
    let second := other.run (twin.application depth) world
    first.1 = second.1 ∧ first.2.registry = second.2.registry ∧
      first.2.app.own = second.2.app.own ∧
      (∃ recent others, first.2.app.past = recent ++ world.app.past ∧
        second.2.app.past = others ++ world.app.past ∧
        List.Forall₂ Pairing.recasing.Deeds recent others) ∧
      List.Forall₂ Pairing.recasing.Notes (program.notes conduct depth world)
        (other.notes twin depth world) := by
  obtain ⟨outcome, ended⟩ := conducts.ends programs (Eq.refl world.registry) (Eq.refl _) depth
  have notes := conducts.notes programs (Eq.refl world.registry) (Eq.refl _) depth
  exact ⟨outcome, ended.registry, ended.own, ended.past, notes⟩

/-- Registers a scheme with a route, routes a URL, and takes the scheme away again. -/
def visit (name url : String) : Program Unit Unit Nat Unit :=
  .use (.routerFor name) fun _ => .use (.addPattern ⟨"app"⟩ "/a" 0 ()) fun _ =>
    .use (.handleFor url) fun
      | .handle handle => .dispatch handle url .empty fun _ =>
          .use (.unregister name) fun _ => .done ()
      | _ => .done ()

theorem recased_visit [Url.Names] {name other source variant : String}
    (lower : name.toLower = other.toLower) (texts : Url.Recased source variant) :
    Pairing.recasing.Programs Eq (visit name source) (visit other variant) := by
  refine .use (.routerFor lower) fun _ => .use (.same _) fun _ =>
    .use (.handleFor texts) fun answer => ?_
  cases answer with
  | handle handle =>
      exact .dispatch handle texts (Params.Alike.refl _) fun _ =>
        .use (.unregister lower) fun _ => .done ()
  | _ => exact .done ()

/-- A handler that counts its calls is called as often when the scheme is written otherwise. -/
theorem schemes_caseless_upper :
    let conduct : Conduct Unit Unit Nat :=
      ⟨fun _ _ => .work (· + 1) fun _ => .done true, fun _ _ _ _ => .done ()⟩
    let world : StoryWorld Unit Unit Nat := .fresh {} ⟨0, []⟩
    let first := (visit "app" "app:/a").run (conduct.application 1) world
    let second := (visit "APP" "APP:/a").run (conduct.application 1) world
    first.2.app.own = 1 ∧ second.2.app.own = 1 ∧ first.2.registry = second.2.registry := by
  intro conduct world first second
  have unseeing : conduct.Unseeing := ⟨fun _ _ _ _ => rfl, fun _ _ _ _ _ _ _ => rfl⟩
  have lower : "app".toLower = "APP".toLower := by
    apply String.toList_injective
    simp only [Text.toList_toLower]
    decide
  have allowed : "app".toList.all Url.isSchemeChar = true := by decide
  have named : Url.IsScheme "app".toList := ⟨by decide, List.all_eq_true.mp allowed⟩
  have recased : Url.Recased "app:/a" "APP:/a" :=
    .inr ⟨"app", "APP", "/a", named, lower, rfl, rfl⟩
  obtain ⟨_, registry, own, _⟩ :=
    schemes_caseless unseeing.recased (recased_visit lower recased) 1 world
  have called : first.2.app.own = 1 := by decide +kernel
  exact ⟨called, own.symm.trans called, registry⟩

end LinkRouting
