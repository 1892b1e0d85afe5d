import LinkRouting.Proofs.Pattern.Orderings
import Mathlib.Algebra.BigOperators.Intervals
import Mathlib.Data.Nat.Choose.Basic

namespace LinkRouting.Pattern

variable {α β : Type} {items : List α} {size : Nat}

theorem length_flatMap_of_constant {f : α → List β} {count : Nat}
    (each : ∀ a ∈ items, (f a).length = count) :
    (items.flatMap f).length = items.length * count := by
  rw [List.length_flatMap, List.map_congr_left each, List.map_const', List.sum_replicate_nat]

theorem length_selections (size : Nat) (items : List α) :
    (selections size items).length = items.length.choose size := by
  induction items generalizing size with
  | nil => cases size <;> rfl
  | cons a rest ih =>
      cases size with
      | zero => rfl
      | succ size => simp [selections, ih, Nat.choose_succ_succ]

theorem length_picks (items : List α) : (picks items).length = items.length := by
  induction items with
  | nil => rfl
  | cons a rest ih => simp [picks, ih]

theorem length_arrangements (whole : items.length = size) :
    (arrangements size items).length = size.factorial := by
  induction size generalizing items with
  | zero => rfl
  | succ size ih =>
      have each : ∀ pick ∈ picks items,
          ((arrangements size pick.2).map (pick.1 :: ·)).length = size.factorial := by
        intro pick picked
        obtain ⟨before, behind, rfl, others⟩ := mem_picks.mp picked
        have count : pick.2.length = size := by
          simp only [others, List.length_append, List.length_cons] at whole ⊢
          omega
        rw [List.length_map, ih count]
      rw [arrangements, length_flatMap_of_constant each, length_picks, whole, Nat.factorial_succ]

theorem length_orderingsOfSize (items : List α) (size : Nat) :
    (orderingsOfSize items size).length = items.length.descFactorial size := by
  have each : ∀ chosen ∈ selections size items,
      (arrangements size chosen).length = size.factorial :=
    fun chosen selected => length_arrangements (mem_selections.mp selected).2
  rw [orderingsOfSize, length_flatMap_of_constant each, length_selections,
    Nat.descFactorial_eq_factorial_mul_choose, Nat.mul_comm]

theorem length_orderings (items : List α) : (orderings items).length =
    ∑ size ∈ Finset.range (items.length + 1),
      items.length.factorial / (items.length - size).factorial := by
  rw [orderings_eq, List.length_flatMap, List.map_reverse, List.sum_reverse]
  refine congrArg List.sum (List.map_congr_left fun size member => ?_)
  have few : size ≤ items.length := Nat.le_of_lt_succ (List.mem_range.mp member)
  rw [length_orderingsOfSize, Nat.descFactorial_eq_div few]

/-- The orderings of all positions are the orders without repetition, each listed once and behind
those that precede it.  Whatever a call is given, it leaves the draft and the flags as they were. -/
theorem orderings_exact (count : Nat) :
    (∀ order, order ∈ orderings (List.finRange count) ↔ order.Nodup) ∧
      (orderings (List.finRange count)).Nodup ∧
      (orderings (List.finRange count)).length =
        ∑ size ∈ Finset.range (count + 1), count.factorial / (count - size).factorial ∧
      (orderings (List.finRange count)).Pairwise Precedes ∧
      ∀ (α : Type) (lacking : Nat) (items : List α),
        (∀ draft, (combinations lacking items draft).current = draft.current) ∧
        ∀ draft, (permutations items lacking draft).current = draft.current ∧
          (permutations items lacking draft).used = draft.used := by
  have distinct : (orderings (List.finRange count)).Nodup := pairwise_orderings.imp Precedes.ne
  have total := length_orderings (List.finRange count)
  rw [List.length_finRange] at total
  refine ⟨fun order => mem_orderings_finRange, distinct, total, pairwise_orderings, ?_⟩
  intro α lacking items
  exact ⟨current_combinations lacking items,
    fun draft => ⟨current_permutations lacking draft, used_permutations lacking draft⟩⟩

end LinkRouting.Pattern
