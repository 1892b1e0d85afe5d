import LinkRouting.Proofs.Pattern.Canonical
import LinkRouting.Proofs.Pattern.Grammar

namespace LinkRouting.Pattern

variable {text : List Char} {pattern : String} {candidate : PathPattern}
  {candidates : List PathPattern}

theorem Plain.chars (plain : Plain text) : Plain (PathPattern.ofChars text).chars := by
  intro c member
  unfold PathPattern.chars at member
  split at member
  · rw [List.mem_singleton.mp member]
    rfl
  · obtain ⟨segment, among, inside⟩ := List.mem_flatMap.mp member
    rcases List.mem_cons.mp inside with rfl | inside
    · rfl
    · have token : segment.token ∈ PathPattern.tokens text := by
        rw [← PathPattern.map_token_classify (PathPattern.tokens text)]
        exact List.mem_map_of_mem among
      rcases List.mem_cons.mp (Text.mem_of_mem_splitOn (List.mem_filter.mp token).1 inside) with
        rfl | original
      · rfl
      · exact plain c original

/-- A text without parentheses is a path pattern of its own. -/
theorem compile_of_plain (plain : Plain pattern.toList) :
    compile pattern = .ok [.ofString pattern] := by
  have written : Written pattern.toList pattern.toList [] :=
    ⟨plain, nofun, (List.append_nil _).symm⟩
  simp [compile, written.layout_eq]

/-- Every candidate is read from a text without parentheses. -/
theorem exists_plain_of_mem (compiled : compile pattern = .ok candidates)
    (member : candidate ∈ candidates) : ∃ text, Plain text ∧ candidate = .ofChars text := by
  cases found : layout pattern with
  | error error => simp [compile, found] at compiled
  | ok read =>
      obtain ⟨groups, written, bodies⟩ := written_of_layout found
      by_cases grouped : read.groups = []
      · have alone : candidates = [.ofString pattern] := by
          simpa [compile, found, grouped] using compiled.symm
        have none : groups = [] := List.map_eq_nil_iff.mp (bodies ▸ grouped)
        subst none
        have whole : pattern.toList = read.stem := written.spelled.trans (List.append_nil _)
        rw [alone, List.mem_singleton] at member
        exact ⟨pattern.toList, whole ▸ written.plain, member⟩
      · obtain ⟨rfl, _⟩ := compile_candidates found grouped compiled
        obtain ⟨order, _, made⟩ := read.made_of_mem_candidates member
        refine ⟨read.text order, fun c inside => ?_, made⟩
        rcases List.mem_append.mp inside with stem | group
        · exact written.plain c stem
        · obtain ⟨body, among, within⟩ := List.mem_flatten.mp group
          obtain ⟨position, _, rfl⟩ := List.mem_map.mp among
          have listed : read.groups.get position ∈ groups.map Group.body :=
            bodies ▸ List.get_mem read.groups position
          obtain ⟨own, present, same⟩ := List.mem_map.mp listed
          exact written.bodies own present c (same ▸ within)

theorem compile_canonical (compiled : compile pattern = .ok candidates)
    (member : candidate ∈ candidates) : compile candidate.canonical = .ok [candidate] := by
  obtain ⟨text, plain, rfl⟩ := exists_plain_of_mem compiled member
  have spelled : (PathPattern.ofChars text).canonical.toList = (PathPattern.ofChars text).chars :=
    String.toList_ofList
  rw [compile_of_plain (spelled ▸ plain.chars), PathPattern.ofString, spelled,
    PathPattern.ofChars_chars]

/-- Keys that tell items apart are as good as the items themselves. -/
theorem distinctOn_of_injective {α κ : Type} [DecidableEq α] [DecidableEq κ] {key : α → κ}
    (seen : List α) {items : List α}
    (injective : ∀ a ∈ items, ∀ b ∈ seen ++ items, key a = key b → a = b) :
    distinctOn key (seen.map key) items = distinctOn id seen items := by
  induction items generalizing seen with
  | nil => rfl
  | cons a rest ih =>
      obtain ⟨own, later⟩ := List.forall_mem_cons.mp injective
      have taken : key a ∈ seen.map key ↔ a ∈ seen := by
        refine ⟨fun member => ?_, List.mem_map_of_mem⟩
        obtain ⟨b, among, same⟩ := List.mem_map.mp member
        exact own b (List.mem_append_left _ among) same.symm ▸ among
      simp only [distinctOn, taken, id_eq]
      split
      · refine ih seen fun b member c among => later b member c ?_
        simp only [List.mem_append, List.mem_cons] at among ⊢
        tauto
      · refine congrArg (a :: ·) (ih (a :: seen) fun b member c among => later b member c ?_)
        simp only [List.cons_append, List.mem_cons, List.mem_append] at among ⊢
        tauto

theorem Layout.variants_eq_distinct (layout : Layout) :
    layout.variants = distinctOn id [] (layout.spellings.map PathPattern.ofChars) := by
  refine distinctOn_of_injective [] fun a member b among same => ?_
  obtain ⟨text, _, rfl⟩ := List.mem_map.mp member
  obtain ⟨other, _, rfl⟩ := List.mem_map.mp among
  exact PathPattern.ofChars_eq_of_canonical same

/-- The canonical text stands for its path pattern: it is read as this one, alone and wherever a
pattern compiles to it, so that telling candidates apart by their texts merges no two of them. -/
theorem canonical_faithful :
    (∀ text, PathPattern.ofString (PathPattern.ofString text).canonical =
      PathPattern.ofString text) ∧
    (∀ text other, (PathPattern.ofString text).canonical = (PathPattern.ofString other).canonical →
      (PathPattern.ofString text).segments = (PathPattern.ofString other).segments) ∧
    (∀ layout : Layout, layout.variants =
      distinctOn id [] (layout.spellings.map PathPattern.ofChars)) ∧
    ∀ pattern candidates, compile pattern = .ok candidates → ∀ candidate ∈ candidates,
      compile candidate.canonical = .ok [candidate] := by
  refine ⟨fun text => ?_, fun text other same => ?_, Layout.variants_eq_distinct,
    fun pattern candidates compiled candidate member => compile_canonical compiled member⟩
  · rw [PathPattern.ofString, PathPattern.canonical, String.toList_ofList]
    exact PathPattern.ofChars_chars text.toList
  · exact congrArg PathPattern.segments (PathPattern.ofChars_eq_of_canonical same)

end LinkRouting.Pattern
