import LinkRouting.Pattern.Ordering
import LinkRouting.Proofs.Pattern.Arrangements

namespace LinkRouting.Pattern

/-! Selections and arrangements are found on one draft, which is written to and taken back.  A call
leaves the draft as it was, and behind what was finished before it puts each selection, or each
arrangement of the items that are not in use, with the draft in front.
-/

variable {α : Type} {items : List α}

namespace Draft

variable (draft : Draft α)

/-- The draft finished with each of the endings behind it. -/
def complete (endings : List (List α)) : Draft α :=
  { draft with finished := draft.finished ++ endings.map (draft.current ++ ·) }

theorem complete_nil : draft.complete [] = draft := by
  simp [complete]

theorem complete_complete (first second : List (List α)) :
    (draft.complete first).complete second = draft.complete (first ++ second) := by
  simp [complete]

theorem finish_eq : draft.finish = draft.complete [[]] := by
  simp [complete, finish]

/-- An item that is put behind the draft and taken off again begins every ending. -/
theorem pop_complete_push (a : α) (endings : List (List α)) :
    ((draft.push a).complete endings).pop = draft.complete (endings.map (a :: ·)) := by
  simp [complete, push, pop, Function.comp_def]

end Draft

theorem combinations_eq (lacking : Nat) (items : List α) (draft : Draft α) :
    combinations lacking items draft = draft.complete (selections lacking items) := by
  induction items generalizing lacking draft with
  | nil =>
      cases lacking with
      | zero => exact draft.finish_eq
      | succ lacking => exact draft.complete_nil.symm
  | cons a rest ih =>
      cases lacking with
      | zero => exact draft.finish_eq
      | succ lacking =>
          rw [combinations, ih, ih, draft.pop_complete_push, draft.complete_complete, selections]

theorem current_combinations (lacking : Nat) (items : List α) (draft : Draft α) :
    (combinations lacking items draft).current = draft.current := by
  rw [combinations_eq]
  rfl

namespace Arranging

variable {count : Nat} (draft : Arranging α count) {position : Fin count}

def complete (endings : List (List α)) : Arranging α count :=
  { draft with toDraft := draft.toDraft.complete endings }

theorem complete_nil : draft.complete [] = draft := by
  rw [complete, Draft.complete_nil]

theorem complete_complete (first second : List (List α)) :
    (draft.complete first).complete second = draft.complete (first ++ second) := by
  simp only [complete, Draft.complete_complete]

/-- The flag of a position that was not in use is taken back with its item. -/
theorem release_complete_take (free : draft.used.get position = false) (a : α)
    (endings : List (List α)) :
    ((draft.take position a).complete endings).release position =
      draft.complete (endings.map (a :: ·)) := by
  have flags : (draft.used.set position true position.isLt).set position false position.isLt =
      draft.used := by
    rw [Vector.set_set, ← free]
    exact Vector.set_getElem_self ..
  have taken := draft.toDraft.pop_complete_push a endings
  simp only [release, take, complete, flags, ← taken]

/-- The positions that are not in use. -/
def vacant (used : Vector Bool count) : List (Fin count) :=
  (List.finRange count).filter fun position => !used.get position

theorem vacant_set (used : Vector Bool count) (position : Fin count) :
    vacant (used.set position true position.isLt) = (vacant used).filter (· ≠ position) := by
  rw [vacant, vacant, List.filter_filter]
  refine List.filter_congr fun other _ => ?_
  by_cases same : other = position
  · have taken : (used.set position true position.isLt).get position = true :=
      Vector.getElem_set_self _
    simp [same, taken]
  · have apart : position.val ≠ other.val := fun equal => same (Fin.ext equal.symm)
    have kept : (used.set position true position.isLt).get other = used.get other :=
      Vector.getElem_set_ne _ _ apart
    simp [same, kept]

theorem vacant_replicate : vacant (.replicate count false) = List.finRange count := by
  refine List.filter_eq_self.mpr fun position _ => ?_
  have free : (Vector.replicate count false).get position = false := Vector.getElem_replicate _
  rw [free, Bool.not_false]

theorem attempt_of_used (used : draft.used.get position = true)
    (go : Arranging α count → Arranging α count) (a : α) : draft.attempt go position a = draft :=
  if_pos used

section Attempts

variable {go : Arranging α count → Arranging α count} (endings : Vector Bool count → List (List α))
  (completes : ∀ draft, go draft = draft.complete (endings draft.used))

include completes

theorem attempt_of_free (free : draft.used.get position = false) (a : α) :
    draft.attempt go position a = draft.complete
      ((endings (draft.used.set position true position.isLt)).map (a :: ·)) := by
  rw [attempt, if_neg (by simp [free]), completes, draft.release_complete_take free]
  rfl

/-- One attempt after the other.  As each leaves the flags as they were, those that are set at
first decide throughout which positions are passed over. -/
theorem foldl_attempt (item : Fin count → α) (places : List (Fin count))
    (draft : Arranging α count) :
    places.foldl (fun draft position => draft.attempt go position (item position)) draft =
      draft.complete ((places.filter fun position => !draft.used.get position).flatMap
        fun position : Fin count => (endings (draft.used.set position true position.isLt)).map
          (item position :: ·)) := by
  induction places generalizing draft with
  | nil => exact draft.complete_nil.symm
  | cons position rest ih =>
      rw [List.foldl_cons]
      cases state : draft.used.get position with
      | true => rw [draft.attempt_of_used state, ih, List.filter_cons_of_neg (by simp [state])]
      | false =>
          rw [draft.attempt_of_free endings completes state, ih, draft.complete_complete,
            List.filter_cons_of_pos (by simp [state])]
          rfl

end Attempts

end Arranging

theorem picks_of_nodup [DecidableEq α] (distinct : items.Nodup) :
    picks items = items.map fun a => (a, items.filter (· ≠ a)) := by
  induction items with
  | nil => rfl
  | cons a rest ih =>
      obtain ⟨absent, tail⟩ := List.nodup_cons.mp distinct
      have others : rest.filter (· ≠ a) = rest :=
        List.filter_eq_self.mpr fun b member => by
          simpa using ne_of_mem_of_not_mem member absent
      rw [picks, ih tail, List.map_map, List.map_cons, List.filter_cons_of_neg (by simp), others]
      refine congrArg _ (List.map_congr_left fun b member => ?_)
      have apart : a ≠ b := (ne_of_mem_of_not_mem member absent).symm
      simp [apart]

theorem permutations_eq (lacking : Nat) (draft : Arranging α items.length) :
    permutations items lacking draft =
      draft.complete (arrangements lacking ((Arranging.vacant draft.used).map items.get)) := by
  induction lacking generalizing draft with
  | zero => exact congrArg (Arranging.mk · draft.used) draft.finish_eq
  | succ lacking ih =>
      have distinct : (Arranging.vacant draft.used).Nodup := (List.nodup_finRange _).filter _
      -- A pick of a vacant position leaves those that are vacant once its flag is set.
      rw [permutations, Arranging.foldl_attempt
        (fun used => arrangements lacking ((Arranging.vacant used).map items.get)) ih items.get,
        arrangements, picks_map, picks_of_nodup distinct]
      simp only [List.flatMap_map, Arranging.vacant_set]
      rfl

theorem current_permutations (lacking : Nat) (draft : Arranging α items.length) :
    (permutations items lacking draft).current = draft.current := by
  rw [permutations_eq]
  rfl

theorem used_permutations (lacking : Nat) (draft : Arranging α items.length) :
    (permutations items lacking draft).used = draft.used := by
  rw [permutations_eq]
  rfl

theorem finished_combinations (size : Nat) (items : List α) :
    (combinations size items {}).finished = selections size items := by
  simp [combinations_eq, Draft.complete]

theorem finished_permutations (chosen : List α) (finished : List (List α)) :
    (permutations chosen chosen.length { finished }).finished =
      finished ++ arrangements chosen.length chosen := by
  rw [permutations_eq, Arranging.vacant_replicate, List.map_get_finRange]
  simp [Arranging.complete, Draft.complete]

/-- The orderings that are found by trying are the arrangements of the selections. -/
theorem orderings_eq (items : List α) : orderings items =
    (List.range (items.length + 1)).reverse.flatMap (orderingsOfSize items) := by
  have ofSize (size : Nat) (finished : List (List α)) :
      (combinations size items {}).finished.foldl (fun finished chosen =>
          (permutations chosen chosen.length { finished }).finished) finished =
        finished ++ orderingsOfSize items size := by
    rw [finished_combinations, orderingsOfSize, List.flatMap_def, ← List.foldl_append_eq_append]
    refine List.foldl_ext _ _ _ fun finished chosen selected => ?_
    rw [finished_permutations, (mem_selections.mp selected).2]
  simp only [orderings, ofSize]
  rw [List.foldl_append_eq_append, List.nil_append, List.flatMap_def]

end LinkRouting.Pattern
