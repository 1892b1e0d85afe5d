import LinkRouting.Proofs.Matching.Building

namespace LinkRouting

/-! Slashes in patterns and in URLs.  Neither counts those at the ends, but between other
characters a second slash is dropped from a pattern and makes an empty component of a request.
-/

variable {text before behind : List Char}

/-- Two slashes side by side with something other than slashes on both sides. -/
def Doubled (path : List Char) : Prop :=
  ∃ before behind, path = before ++ '/' :: '/' :: behind ∧
    (∃ c ∈ before, c ≠ '/') ∧ ∃ c ∈ behind, c ≠ '/'

def isWordChar (c : Char) : Bool :=
  c.isAlphanum || c == '-' || c == '_'

/-- An empty piece is at an end of the text or between two marks. -/
theorem nil_mem_splitOn {mark : Char} (empty : [] ∈ text.splitOn mark) : text = [] ∨
    text.head? = some mark ∨ text.getLast? = some mark ∨
      ∃ before behind, text = before ++ mark :: mark :: behind := by
  obtain ⟨first, others, pieces⟩ := List.append_of_mem empty
  cases first with
  | nil =>
      refine (Text.head?_of_head?_splitOn ?_).imp_right .inl
      rw [pieces]
      rfl
  | cons piece earlier =>
      cases others with
      | nil =>
          refine (Text.getLast?_of_getLast?_splitOn ?_).imp_right fun last => .inr (.inl last)
          rw [pieces]
          exact List.getLast?_concat
      | cons next later =>
          have whole := Text.flatMap_splitOn mark text
          rw [pieces, List.flatMap_append, List.flatMap_cons] at whole
          have rest : piece ++ earlier.flatMap (mark :: ·) ++
              mark :: mark :: (next ++ later.flatMap (mark :: ·)) = text := by simpa using whole
          exact .inr (.inr (.inr ⟨_, _, rest.symm⟩))

namespace Request

theorem empty_mem_splitPath : "" ∈ splitPath text ↔ Text.trimBoth (· == '/') text ≠ [] ∧
    [] ∈ (Text.trimBoth (· == '/') text).splitOn '/' := by
  unfold splitPath
  by_cases nothing : Text.trimBoth (· == '/') text = []
  · simp [nothing]
  · simp [nothing, String.ofList_eq_empty_iff]

theorem doubled_of_trimBoth
    (split : Text.trimBoth (· == '/') text = before ++ '/' :: '/' :: behind) : Doubled text := by
  obtain ⟨lead, trail, whole, _, _⟩ := Text.exists_trimBoth (· == '/') text
  refine ⟨lead ++ before, behind ++ trail, ?_, ?_, ?_⟩
  · rw [whole, split]
    simp
  · have first : ∀ c ∈ (Text.trimBoth (· == '/') text).head?, (c == '/') = false :=
      Text.head?_trimBoth
    rw [split] at first
    cases before with
    | nil => exact absurd (first '/' rfl) (by simp)
    | cons c rest =>
        have kept := first c rfl
        exact ⟨c, by simp, by simpa using kept⟩
  · have last : ∀ c ∈ (Text.trimBoth (· == '/') text).getLast?, (c == '/') = false :=
      Text.getLast?_trimBoth
    rw [split] at last
    rcases behind.eq_nil_or_concat with rfl | ⟨rest, c, rfl⟩
    · exact absurd (last '/' (by simp)) (by simp)
    · have ending : before ++ '/' :: '/' :: rest.concat c =
          (before ++ '/' :: '/' :: rest) ++ [c] := by simp
      have kept := last c (by rw [ending]; exact List.getLast?_concat)
      exact ⟨c, by simp, by simpa using kept⟩

theorem empty_mem_splitPath_iff : "" ∈ splitPath text ↔ Doubled text := by
  rw [empty_mem_splitPath]
  constructor
  · rintro ⟨nonempty, empty⟩
    rcases nil_mem_splitOn empty with nothing | first | last | ⟨before, behind, split⟩
    · exact absurd nothing nonempty
    · exact absurd (Text.head?_trimBoth _ first) (by simp)
    · exact absurd (Text.getLast?_trimBoth _ last) (by simp)
    · exact doubled_of_trimBoth split
  · rintro ⟨before, behind, split, ⟨first, inFront, firstKept⟩, last, behindIt, lastKept⟩
    have kept : ∃ c ∈ before, (c == '/') = false := ⟨first, inFront, by simpa using firstKept⟩
    have also : ∃ c ∈ behind, (c == '/') = false := ⟨last, behindIt, by simpa using lastKept⟩
    have trimmed := Text.trimBoth_append kept also ['/', '/']
    rw [List.append_assoc, List.cons_append, List.cons_append, List.nil_append, ← split] at trimmed
    rw [trimmed]
    refine ⟨by simp, ?_⟩
    rw [List.append_assoc, List.cons_append, List.splitOn_append_cons_self]
    apply List.mem_append_right
    rw [List.singleton_append, List.splitOn_cons_eq_if_modifyHead, if_pos (beq_self_eq_true '/')]
    exact List.mem_cons_self

end Request

namespace PathPattern

theorem tokens_of_slashes (slashes : ∀ c ∈ text, c = '/') : tokens text = [] := by
  induction text with
  | nil => rfl
  | cons c rest ih =>
      have first : c = '/' := slashes c List.mem_cons_self
      have later := ih fun other member => slashes other (List.mem_cons_of_mem c member)
      have leading : tokens ('/' :: rest) = tokens rest := tokens_append_slash [] rest
      rw [first, leading, later]

theorem tokens_append_slashes (text : List Char) (slashes : ∀ c ∈ behind, c = '/') :
    tokens (text ++ behind) = tokens text := by
  cases behind with
  | nil => rw [List.append_nil]
  | cons c rest =>
      have first : c = '/' := slashes c List.mem_cons_self
      have later := tokens_of_slashes fun other member =>
        slashes other (List.mem_cons_of_mem c member)
      rw [first, tokens_append_slash, later, List.append_nil]

theorem tokens_slashes_append (slashes : ∀ c ∈ before, c = '/') (text : List Char) :
    tokens (before ++ text) = tokens text := by
  induction before with
  | nil => rfl
  | cons c rest ih =>
      have first : c = '/' := slashes c List.mem_cons_self
      have later := ih fun other member => slashes other (List.mem_cons_of_mem c member)
      have leading : tokens ('/' :: (rest ++ text)) = tokens (rest ++ text) :=
        tokens_append_slash [] _
      rw [first, List.cons_append, leading, later]

/-- The tokens of a pattern are the components of the same text that are not empty. -/
theorem map_tokens (text : List Char) : (tokens text).map String.ofList =
    (Request.splitPath text).filter fun component => component ≠ "" := by
  obtain ⟨lead, trail, whole, leading, trailing⟩ := Text.exists_trimBoth (· == '/') text
  have inner : tokens text = tokens (Text.trimBoth (· == '/') text) := by
    conv_lhs => rw [whole]
    rw [tokens_append_slashes _ fun c member => eq_of_beq (trailing c member),
      tokens_slashes_append fun c member => eq_of_beq (leading c member)]
  rw [inner]
  unfold Request.splitPath tokens
  by_cases nothing : Text.trimBoth (· == '/') text = []
  · simp [nothing]
  · have same : ((fun component => decide (component ≠ "")) ∘ String.ofList) =
        fun token : List Char => !token.isEmpty := by
      funext token
      cases token <;> simp [String.ofList_eq_empty_iff]
    simp only [List.isEmpty_eq_false_iff.mpr nothing, Bool.false_eq_true, if_false,
      List.filter_map, same]

theorem classify_of_words {parts : List (List Char)}
    (words : ∀ token ∈ parts, ∀ c ∈ token, isWordChar c = true) :
    classify parts = parts.map fun token => .literal (String.ofList token) := by
  have literal (token : List Char) (last : Bool) (word : ∀ c ∈ token, isWordChar c = true) :
      Segment.ofToken token last = .literal (String.ofList token) := by
    unfold Segment.ofToken
    split
    · exact absurd (word ':' List.mem_cons_self) (by decide)
    · refine if_neg ?_
      rintro ⟨rfl, _⟩
      exact absurd (word '*' List.mem_cons_self) (by decide)
  induction parts with
  | nil => rfl
  | cons token rest ih =>
      have first := fun last => literal token last (words token List.mem_cons_self)
      have later := ih fun other member => words other (List.mem_cons_of_mem token member)
      cases rest with
      | nil => simp only [classify, first, List.map_cons, List.map_nil]
      | cons next others =>
          have split : classify (token :: next :: others) =
              Segment.ofToken token false :: classify (next :: others) := rfl
          rw [split, first, later]
          rfl

end PathPattern

theorem below_of_isWordChar {c : Char} (word : isWordChar c = true) : c.toNat < 128 := by
  simp only [isWordChar, Bool.or_eq_true, beq_iff_eq] at word
  rcases word with (ascii | rfl) | rfl
  · exact Text.below_of_isAlphanum ascii
  · decide
  · decide

theorem keepInPath_of_isWordChar {c : Char} (word : isWordChar c = true) :
    Url.keepInPath c = true := by
  have checked : ∀ value ∈ List.range 128, isWordChar (Char.ofNat value) = true →
      Url.keepInPath (Char.ofNat value) = true := by decide +kernel
  exact Text.of_below (P := fun c => isWordChar c = true → Url.keepInPath c = true) checked
    (below_of_isWordChar word) word

theorem dotless_of_words {piece : List Char} (words : ∀ c ∈ piece, isWordChar c = true) :
    Url.isSingleDot piece = false ∧ Url.isDoubleDot piece = false := by
  have signless : '%' ∉ piece := fun member => absurd (words '%' member) (by decide)
  have dotless : '.' ∉ piece := fun member => absurd (words '.' member) (by decide)
  have read := Text.Percent.decode_of_not_mem signless
  rw [← Bool.not_eq_true, ← Bool.not_eq_true]
  constructor
  · intro dot
    rw [Url.decode_of_isSingleDot dot] at read
    exact dotless (by simp [← read])
  · intro dots
    rw [Url.decode_of_isDoubleDot dots] at read
    exact dotless (by simp [← read])

section Plain

variable (plain : ∀ c ∈ text, c = '/' ∨ isWordChar c = true)

include plain

theorem words_of_mem_splitOn {piece : List Char} (member : piece ∈ text.splitOn '/') :
    ∀ c ∈ piece, isWordChar c = true := by
  intro c inside
  have free : '/' ∉ piece := Text.not_mem_of_mem_splitOn member
  rcases List.mem_cons.mp (Text.mem_of_mem_splitOn member inside) with rfl | later
  · exact absurd inside free
  · rcases plain c later with rfl | word
    · exact absurd inside free
    · exact word

theorem verbatim_of_plain : Url.Verbatim text where
  kept c member := by
    rcases plain c member with rfl | word
    · rfl
    · exact keepInPath_of_isWordChar word
  dotless _ member := dotless_of_words (words_of_mem_splitOn plain member)

theorem segments_of_plain : (PathPattern.ofChars text).segments =
    ((Request.splitPath text).filter fun component => component ≠ "").map .literal := by
  have words : ∀ token ∈ PathPattern.tokens text, ∀ c ∈ token, isWordChar c = true :=
    fun token member => words_of_mem_splitOn plain (List.mem_filter.mp member).1
  rw [← PathPattern.map_tokens, List.map_map]
  exact PathPattern.classify_of_words words

end Plain

namespace PathPattern

theorem bindFixed_literal (plus : Bool) (components : List String) :
    bindFixed plus (components.map .literal) components = some [] := by
  induction components with
  | nil => rfl
  | cons component rest ih =>
      have same : literalMatches component component = true := by simp [literalMatches]
      simp only [List.map_cons, bindFixed, same, if_true, ih]

theorem bind_of_longer {pattern : PathPattern} {request : Request}
    (plain : pattern.hasWildcard = false)
    (longer : pattern.segments.length < request.components.length) :
    pattern.bind request = none := by
  have fixed : pattern.fixed = pattern.segments := if_neg (Bool.eq_false_iff.mp plain)
  unfold bind
  simp only [fixed, plain, Bool.false_eq_true, if_false]
  exact if_neg (Nat.ne_of_lt longer)

end PathPattern

/-- A path of words that is taken for a pattern matches the URL with the same path, unless two
slashes stand side by side inside of it.  Then the pattern has a segment for each component that
is not empty, which is too few. -/
theorem bind_spelled [Url.Names] (path : String) (rooted : path.toList.head? = some '/')
    (plain : ∀ c ∈ path.toList, c = '/' ∨ isWordChar c = true) (options : Options)
    (params : Params) :
    let pattern := PathPattern.ofString path
    ∃ request, Request.parse ("app://" ++ path) options params = .ok request ∧
      pattern.segments =
        (request.components.filter fun component => component ≠ "").map .literal ∧
      (¬Doubled path.toList → pattern.bind request = some ⟨[], []⟩) ∧
      (Doubled path.toList → pattern.bind request = none) := by
  intro pattern
  obtain ⟨rest, spelled⟩ := List.head?_eq_some_iff.mp rooted
  have inside : ∀ c ∈ rest, c = '/' ∨ isWordChar c = true :=
    fun c member => plain c (by rw [spelled]; exact List.mem_cons_of_mem '/' member)
  have allowed : "app".toList.all Url.isSchemeChar = true := by decide
  have named : Url.IsScheme "app".toList := ⟨by decide, List.all_eq_true.mp allowed⟩
  obtain ⟨request, parsed, components⟩ :=
    Request.parse_of_verbatim named (by decide +kernel) (verbatim_of_plain inside) options params
  have source : "app" ++ ":///" ++ String.ofList rest = "app://" ++ path := by
    apply String.toList_injective
    simp [spelled]
  rw [source] at parsed
  rw [← spelled] at components
  have segments : pattern.segments =
      (request.components.filter fun component => component ≠ "").map .literal := by
    rw [components]
    exact segments_of_plain plain
  have starless : pattern.hasWildcard = false := by
    unfold PathPattern.hasWildcard
    rw [segments, List.getLast?_map]
    cases (request.components.filter fun component => component ≠ "").getLast? <;> rfl
  refine ⟨request, parsed, segments, fun single => ?_, fun doubled => ?_⟩
  · have whole : (request.components.filter fun component => component ≠ "") =
        request.components := by
      refine List.filter_eq_self.mpr fun component member => decide_eq_true ?_
      rintro rfl
      rw [components] at member
      exact single (Request.empty_mem_splitPath_iff.mp member)
    rw [whole] at segments
    rw [PathPattern.bind_of_plain starless (by rw [segments, List.length_map]), segments,
      PathPattern.bindFixed_literal]
    rfl
  · have empty : "" ∈ request.components := by
      rw [components]
      exact Request.empty_mem_splitPath_iff.mpr doubled
    refine PathPattern.bind_of_longer starless ?_
    rw [segments, List.length_map]
    exact List.length_filter_lt_length_iff_exists.mpr ⟨"", empty, by simp⟩

theorem bind_spelled_slashes : ∃ request,
    Request.parse "app:////a/b-c_1//" {} .empty = .ok request ∧
      (PathPattern.ofString "//a/b-c_1//").bind request = some ⟨[], []⟩ := by
  have plain : "//a/b-c_1//".toList.all (fun c => c = '/' ∨ isWordChar c = true) = true := by
    decide
  obtain ⟨request, parsed, _, matched, _⟩ := bind_spelled "//a/b-c_1//" (by decide)
    (fun c member => of_decide_eq_true (List.all_eq_true.mp plain c member)) {} .empty
  refine ⟨request, parsed, matched ?_⟩
  rw [← Request.empty_mem_splitPath_iff]
  decide +kernel

/-- The pattern `/a//b` has two segments, and the path `/a//b` three components. -/
theorem bind_doubled : ∃ request,
    (Request.parse "app:///a//b" {} .empty).toOption = some request ∧
      request.components = ["a", "", "b"] ∧
      (PathPattern.ofString "/a//b").segments = [.literal "a", .literal "b"] ∧
      (PathPattern.ofString "/a//b").bind request = none := by
  have read : ((Request.parse "app:///a//b" {} .empty).toOption.map fun request =>
      (request.components, (PathPattern.ofString "/a//b").bind request)) =
        some (["a", "", "b"], none) := by
    decide +kernel
  obtain ⟨request, parsed, reading⟩ := Option.map_eq_some_iff.mp read
  obtain ⟨components, unmatched⟩ := Prod.mk.inj reading
  exact ⟨request, parsed, components, by decide +kernel, unmatched⟩

end LinkRouting
