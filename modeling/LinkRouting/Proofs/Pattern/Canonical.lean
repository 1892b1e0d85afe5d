import LinkRouting.Pattern.Path
import LinkRouting.Proofs.Text.Split

namespace LinkRouting.PathPattern

variable {text token : List Char} {parts : List (List Char)}

/-- What can stand between two slashes. -/
structure IsToken (token : List Char) : Prop where
  nonempty : token ≠ []
  slashFree : '/' ∉ token

theorem isToken_of_mem_tokens (member : token ∈ tokens text) : IsToken token := by
  obtain ⟨piece, nonempty⟩ := List.mem_filter.mp member
  exact ⟨by simpa using nonempty, Text.not_mem_of_mem_splitOn piece⟩

/-- A slash separates tokens, and nothing else does. -/
theorem tokens_append_slash (before behind : List Char) :
    tokens (before ++ '/' :: behind) = tokens before ++ tokens behind := by
  unfold tokens
  rw [List.splitOn_append_cons_self, List.filter_append]

theorem tokens_of_isToken (whole : IsToken token) : tokens token = [token] := by
  unfold tokens
  rw [List.splitOn_eq_singleton whole.slashFree]
  simp [whole.nonempty]

theorem tokens_flatMap (whole : ∀ token ∈ parts, IsToken token) :
    tokens (parts.flatMap fun token => '/' :: token) = parts := by
  induction parts with
  | nil => rfl
  | cons token rest ih =>
      have first := whole token List.mem_cons_self
      have later := ih fun other member => whole other (List.mem_cons_of_mem token member)
      have leading (behind : List Char) : tokens ('/' :: behind) = tokens behind :=
        tokens_append_slash [] behind
      rw [List.flatMap_cons, List.cons_append, leading]
      cases rest with
      | nil => rw [List.flatMap_nil, List.append_nil, tokens_of_isToken first]
      | cons next others =>
          rw [List.flatMap_cons, List.cons_append, tokens_append_slash, tokens_of_isToken first]
          rw [List.flatMap_cons, List.cons_append, leading] at later
          rw [later]
          rfl

theorem map_token_classify (parts : List (List Char)) :
    (classify parts).map Segment.token = parts := by
  induction parts with
  | nil => rfl
  | cons token rest ih =>
      cases rest with
      | nil => simp [classify, Segment.token_ofToken]
      | cons next others => simp only [classify, List.map_cons, Segment.token_ofToken, ih]

theorem tokens_chars (text : List Char) : tokens (ofChars text).chars = tokens text := by
  have written := map_token_classify (tokens text)
  unfold chars
  split
  · rename_i nothing
    have empty : classify (tokens text) = [] := List.isEmpty_iff.mp nothing
    rw [empty] at written
    rw [← written]
    rfl
  · have parts : (ofChars text).segments.flatMap (fun segment => '/' :: segment.token) =
        (tokens text).flatMap fun token => '/' :: token := by
      rw [← written, List.flatMap_map]
      rfl
    rw [parts, tokens_flatMap fun _ => isToken_of_mem_tokens]

/-- Reading what a pattern is written as gives the pattern back. -/
theorem ofChars_chars (text : List Char) : ofChars (ofChars text).chars = ofChars text := by
  rw [ofChars, tokens_chars, ofChars]

theorem ofChars_eq_of_canonical {text other : List Char}
    (same : (ofChars text).canonical = (ofChars other).canonical) :
    ofChars text = ofChars other := by
  have chars : (ofChars text).chars = (ofChars other).chars := String.ofList_injective same
  rw [← ofChars_chars text, chars, ofChars_chars]

end LinkRouting.PathPattern
