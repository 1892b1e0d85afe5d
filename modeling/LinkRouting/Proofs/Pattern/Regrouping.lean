import LinkRouting.Proofs.Pattern.Choice
import LinkRouting.Proofs.Pattern.Recompiling
import Mathlib.Data.List.Nodup
import Mathlib.Data.List.Perm.Subperm

namespace LinkRouting.Pattern

/-! The order in which the groups of a pattern are written, and the slashes behind them.  They tell
which candidate is tried first, but not which candidates there are, and so not what a route matches.
-/

variable {α : Type} {items order : List α}

theorem mem_orderings_iff_subperm : order ∈ orderings items ↔ order.Subperm items := by
  rw [mem_orderings]
  exact exists_congr fun chosen => and_comm.trans (and_congr_left' (List.perm_comm ..))

namespace Layout

/-- The same stem, and the same groups in whatever order. -/
structure Regroups (layout other : Layout) : Prop where
  stem : layout.stem = other.stem
  groups : layout.groups.Perm other.groups

variable {layout other : Layout} {candidate : PathPattern}

theorem mem_spellings {text : List Char} : text ∈ layout.spellings ↔
    (∃ order : List (List Char), order.Subperm layout.groups ∧
      layout.stem ++ order.flatten = text) ∧ text.all Text.isBlank = false := by
  simp only [spellings, List.mem_filter, List.mem_map, mem_orderings_iff_subperm,
    Bool.not_eq_true']

theorem mem_candidates_iff_spelled : candidate ∈ layout.candidates ↔
    ∃ text ∈ layout.spellings, .ofChars text = candidate := by
  rw [mem_candidates_iff, spellings_eq]
  simp only [List.mem_map, exists_exists_and_eq_and]

namespace Regroups

variable (regroups : layout.Regroups other)

include regroups

theorem mem_spellings {text : List Char} : text ∈ layout.spellings ↔ text ∈ other.spellings := by
  simp only [Layout.mem_spellings, regroups.stem, regroups.groups.subperm_left]

/-- No path pattern is a candidate twice, so both have the same candidates up to their order. -/
theorem candidates : layout.candidates.Perm other.candidates := by
  have distinct (layout : Layout) : layout.candidates.Nodup :=
    List.Nodup.of_map PathPattern.canonical layout.nodup_candidates
  refine (List.perm_ext_iff_of_nodup (distinct layout) (distinct other)).mpr fun candidate => ?_
  simp only [mem_candidates_iff_spelled, regroups.mem_spellings]

end Regroups

end Layout

section Compile

variable {pattern other : String} {stem : List Char} {groups others : List Group}
  {read reread : Layout} {candidates again : List PathPattern}

theorem compile_of_regroups (found : layout pattern = .ok read)
    (refound : layout other = .ok reread) (grouped : read.groups ≠ [])
    (regroups : read.Regroups reread) :
    (∃ count, compile pattern = .error (.tooManyGroups pattern count maxGroups) ∧
      compile other = .error (.tooManyGroups other count maxGroups)) ∨
    (compile pattern = .error (.noCandidates pattern) ∧
      compile other = .error (.noCandidates other)) ∨
    compile pattern = .ok read.candidates ∧ compile other = .ok reread.candidates := by
  have count : read.groups.length = reread.groups.length := regroups.groups.length_eq
  have regrouped : reread.groups ≠ [] := by
    rw [← List.length_pos_iff, ← count]
    exact List.length_pos_iff.mpr grouped
  rw [compile_of_groups found grouped, compile_of_groups refound regrouped, count]
  by_cases many : maxGroups < reread.groups.length
  · rw [if_pos many, if_pos many]
    exact .inl ⟨_, rfl, rfl⟩
  · rw [if_neg many, if_neg many]
    have same := regroups.candidates
    cases expanded : read.candidates with
    | nil =>
        rw [expanded, List.nil_perm] at same
        rw [same]
        exact .inr (.inl ⟨rfl, rfl⟩)
    | cons first rest =>
        cases again : reread.candidates with
        | nil => simp [expanded, again] at same
        | cons other more => exact .inr (.inr ⟨rfl, rfl⟩)

/-- Without groups, there is only one way to write a pattern. -/
theorem Written.eq_of_groupless (written : Written pattern.toList stem [])
    (rewritten : Written other.toList stem []) : pattern = other :=
  String.toList_injective (written.spelled.trans rewritten.spelled.symm)

theorem respond_of_perm (compiled : compile pattern = .ok candidates)
    (recompiled : compile other = .ok again) (same : candidates.Perm again) (Handler : Type)
    (priority : Nat) (handler : Option Handler) : ∃ route another,
      Route.ofPattern pattern priority handler = .ok route ∧
      Route.ofPattern other priority handler = .ok another ∧
      ∀ scheme request, ({ route with scheme }.respond request).isSome =
        ({ another with scheme }.respond request).isSome := by
  refine ⟨⟨"", pattern, priority, candidates, handler⟩, ⟨"", other, priority, again, handler⟩,
    ?_, ?_, fun scheme request => ?_⟩
  · rw [Route.ofPattern, compiled]
    rfl
  · rw [Route.ofPattern, recompiled]
    rfl
  · rw [Route.isSome_respond, Route.isSome_respond, same.any_eq]

/-- A pattern whose groups are written in another order, or with other slashes behind them, is
refused for the same reason or stands for the same path patterns, so that routes for the two match
the same requests. -/
theorem compile_reordered (written : Written pattern.toList stem groups)
    (rewritten : Written other.toList stem others)
    (reordered : (groups.map Group.body).Perm (others.map Group.body)) :
    (∃ count, compile pattern = .error (.tooManyGroups pattern count maxGroups) ∧
      compile other = .error (.tooManyGroups other count maxGroups)) ∨
    (compile pattern = .error (.noCandidates pattern) ∧
      compile other = .error (.noCandidates other)) ∨
    ∃ candidates again, compile pattern = .ok candidates ∧ compile other = .ok again ∧
      candidates.Perm again ∧
      ∀ (Handler : Type) (priority : Nat) (handler : Option Handler), ∃ route another,
        Route.ofPattern pattern priority handler = .ok route ∧
        Route.ofPattern other priority handler = .ok another ∧
        ∀ scheme request, ({ route with scheme }.respond request).isSome =
          ({ another with scheme }.respond request).isSome := by
  by_cases groupless : groups = []
  · subst groupless
    have none : others = [] := List.map_eq_nil_iff.mp (List.nil_perm.mp reordered)
    subst none
    obtain rfl := written.eq_of_groupless rewritten
    have whole : pattern.toList = stem := written.spelled.trans (List.append_nil stem)
    have compiled := compile_of_plain (whole ▸ written.plain)
    have answers := respond_of_perm compiled compiled (.refl _)
    exact .inr (.inr ⟨_, _, compiled, compiled, .refl _, answers⟩)
  · have grouped : groups.map Group.body ≠ [] := mt List.map_eq_nil_iff.mp groupless
    have regroups : Layout.Regroups ⟨stem, groups.map Group.body⟩ ⟨stem, others.map Group.body⟩ :=
      ⟨rfl, reordered⟩
    refine (compile_of_regroups written.layout_eq rewritten.layout_eq grouped regroups).imp_right
      (Or.imp_right ?_)
    rintro ⟨compiled, recompiled⟩
    have same := regroups.candidates
    exact ⟨_, _, compiled, recompiled, same, respond_of_perm compiled recompiled same⟩

/-- The groups of `/a(/:x)(/b)` the other way round are tried in another order. -/
theorem compile_reordered_slashes : ∃ candidates again,
    compile "/a(/:x)(/b)" = .ok candidates ∧ compile "/a(/b)//(/:x)/" = .ok again ∧
      candidates ≠ again ∧ candidates.Perm again := by
  have written : Written "/a(/:x)(/b)".toList "/a".toList [⟨"/:x".toList, 0⟩, ⟨"/b".toList, 0⟩] :=
    ⟨by decide, by decide, by decide⟩
  have rewritten : Written "/a(/b)//(/:x)/".toList "/a".toList
      [⟨"/b".toList, 2⟩, ⟨"/:x".toList, 1⟩] :=
    ⟨by decide, by decide, by decide⟩
  rcases compile_reordered written rewritten (.swap ..) with ⟨count, refused, _⟩ | ⟨refused, _⟩ |
    ⟨candidates, again, compiled, recompiled, same, _⟩
  · cases refused
  · cases refused
  · refine ⟨candidates, again, compiled, recompiled, ?_, same⟩
    rintro rfl
    have apart : compile "/a(/:x)(/b)" ≠ compile "/a(/b)//(/:x)/" := by decide
    exact apart (compiled.trans recompiled.symm)

end Compile

end LinkRouting.Pattern
