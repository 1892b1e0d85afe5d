import LinkRouting.Proofs.Pattern.Backtracking

namespace LinkRouting.Pattern

variable {α β : Type} {items order : List α}

theorem orderings_map (f : α → β) (items : List α) :
    orderings (items.map f) = (orderings items).map (List.map f) := by
  simp only [orderings_eq, List.length_map, List.map_flatMap]
  exact congrArg (List.flatMap · _) (funext fun size => orderingsOfSize_map f items size)

/-- The orderings are the arrangements of any of the items, each used at most once. -/
theorem mem_orderings : order ∈ orderings items ↔
    ∃ chosen, chosen.Sublist items ∧ order.Perm chosen := by
  simp only [orderings_eq, List.mem_flatMap, List.mem_reverse, List.mem_range, mem_orderingsOfSize]
  constructor
  · rintro ⟨_, _, chosen, inside, _, arranged⟩
    exact ⟨chosen, inside, arranged⟩
  · rintro ⟨chosen, inside, arranged⟩
    exact ⟨chosen.length, Nat.lt_succ_of_le inside.length_le, chosen, inside, rfl, arranged⟩

example : orderings ['a', 'b'] = [['a', 'b'], ['b', 'a'], ['a'], ['b'], []] := by decide

section Positions

variable {count : Nat} {order first second : List (Fin count)}

/-- The positions of an order in ascending sequence. -/
def positions (order : List (Fin count)) : List (Fin count) :=
  (List.finRange count).filter (· ∈ order)

/-- Longer orders come first.  Those of one length go by their positions, and those of the same
positions by themselves, both lexicographically. -/
def Precedes (first second : List (Fin count)) : Prop :=
  second.length < first.length ∨ first.length = second.length ∧
    (List.Lex (· < ·) (positions first) (positions second) ∨
      positions first = positions second ∧ List.Lex (· < ·) first second)

theorem mem_positions {position : Fin count} : position ∈ positions order ↔ position ∈ order := by
  simp [positions, List.mem_finRange]

theorem nodup_positions : (positions order).Nodup :=
  (List.nodup_finRange count).sublist List.filter_sublist

theorem positions_eq {chosen : List (Fin count)} (inside : chosen.Sublist (List.finRange count))
    (arranged : order.Perm chosen) : positions order = chosen := by
  have same : (positions order).Perm chosen := by
    refine (List.perm_ext_iff_of_nodup nodup_positions
      ((List.nodup_finRange count).sublist inside)).mpr fun position => ?_
    rw [mem_positions, arranged.mem_iff]
  have ascending := List.pairwise_lt_finRange count
  refine same.eq_of_pairwise ?_ (ascending.sublist List.filter_sublist) (ascending.sublist inside)
  intro a b _ _ less greater
  exact absurd greater (Fin.lt_asymm less)

/-- The orderings of all positions are the orders in which none is repeated. -/
theorem mem_orderings_finRange : order ∈ orderings (List.finRange count) ↔ order.Nodup := by
  rw [mem_orderings]
  constructor
  · rintro ⟨chosen, inside, arranged⟩
    exact arranged.nodup_iff.mpr ((List.nodup_finRange count).sublist inside)
  · intro distinct
    refine ⟨positions order, List.filter_sublist, ?_⟩
    exact (List.perm_ext_iff_of_nodup distinct nodup_positions).mpr fun _ => mem_positions.symm

theorem pairwise_orderingsOfSize (size : Nat) :
    (orderingsOfSize (List.finRange count) size).Pairwise Precedes := by
  have ascending := List.pairwise_lt_finRange count
  refine List.pairwise_flatMap.mpr ⟨?_, ?_⟩
  · intro chosen selected
    obtain ⟨inside, whole⟩ := mem_selections.mp selected
    refine (pairwise_arrangements (ascending.sublist inside)).imp_of_mem ?_
    intro first second firstMember secondMember less
    have firstPerm := (mem_arrangements whole).mp firstMember
    have secondPerm := (mem_arrangements whole).mp secondMember
    refine .inr ⟨firstPerm.length_eq.trans secondPerm.length_eq.symm, .inr ⟨?_, less⟩⟩
    rw [positions_eq inside firstPerm, positions_eq inside secondPerm]
  · refine (pairwise_selections ascending).imp_of_mem ?_
    intro chosen others selected selectedOthers less first firstMember second secondMember
    obtain ⟨inside, whole⟩ := mem_selections.mp selected
    obtain ⟨othersInside, othersWhole⟩ := mem_selections.mp selectedOthers
    have firstPerm := (mem_arrangements whole).mp firstMember
    have secondPerm := (mem_arrangements othersWhole).mp secondMember
    refine .inr ⟨?_, .inl ?_⟩
    · rw [firstPerm.length_eq, secondPerm.length_eq, whole, othersWhole]
    · rwa [positions_eq inside firstPerm, positions_eq othersInside secondPerm]

theorem pairwise_orderings : (orderings (List.finRange count)).Pairwise Precedes := by
  rw [orderings_eq]
  refine List.pairwise_flatMap.mpr ⟨fun size _ => pairwise_orderingsOfSize size, ?_⟩
  refine (List.pairwise_reverse.mpr List.pairwise_lt_range).imp fun {larger smaller} less => ?_
  intro first firstMember second secondMember
  obtain ⟨_, _, rfl, firstPerm⟩ := mem_orderingsOfSize.mp firstMember
  obtain ⟨_, _, rfl, secondPerm⟩ := mem_orderingsOfSize.mp secondMember
  refine .inl ?_
  rwa [firstPerm.length_eq, secondPerm.length_eq]

theorem Precedes.ne (precedes : Precedes first second) : first ≠ second := by
  rintro rfl
  rcases precedes with longer | ⟨_, less | ⟨_, less⟩⟩
  · exact Nat.lt_irrefl _ longer
  · exact List.lt_irrefl _ less
  · exact List.lt_irrefl _ less

end Positions

end LinkRouting.Pattern
