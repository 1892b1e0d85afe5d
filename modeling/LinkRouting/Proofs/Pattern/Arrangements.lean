import Mathlib.Data.List.Nodup

namespace LinkRouting.Pattern

/-- The selections of `size` items in their given order, the earliest positions first. -/
def selections : (size : Nat) → List α → List (List α)
  | 0, _ => [[]]
  | _ + 1, [] => []
  | size + 1, a :: rest => (selections size rest).map (a :: ·) ++ selections (size + 1) rest

/-- Each item with the others. -/
def picks : List α → List (α × List α)
  | [] => []
  | a :: rest => (a, rest) :: (picks rest).map fun pick => (pick.1, a :: pick.2)

/-- The arrangements of `size` of the items, each used at most once. -/
def arrangements : (size : Nat) → List α → List (List α)
  | 0, _ => [[]]
  | size + 1, items =>
      (picks items).flatMap fun pick => (arrangements size pick.2).map (pick.1 :: ·)

def orderingsOfSize (items : List α) (size : Nat) : List (List α) :=
  (selections size items).flatMap (arrangements size)

variable {α β : Type} {items chosen order : List α} {size : Nat}

section Map

variable (f : α → β)

theorem selections_map (size : Nat) (items : List α) :
    selections size (items.map f) = (selections size items).map (List.map f) := by
  induction items generalizing size with
  | nil => cases size <;> rfl
  | cons a rest ih =>
      cases size with
      | zero => rfl
      | succ size => simp [selections, ih]

theorem picks_map (items : List α) :
    picks (items.map f) = (picks items).map fun pick => (f pick.1, pick.2.map f) := by
  induction items with
  | nil => rfl
  | cons a rest ih => simp [picks, ih]

theorem arrangements_map (size : Nat) (items : List α) :
    arrangements size (items.map f) = (arrangements size items).map (List.map f) := by
  induction size generalizing items with
  | zero => rfl
  | succ size ih =>
      simp only [arrangements, picks_map, ih, List.flatMap_map, List.map_flatMap, List.map_map]
      rfl

theorem orderingsOfSize_map (items : List α) (size : Nat) :
    orderingsOfSize (items.map f) size = (orderingsOfSize items size).map (List.map f) := by
  simp only [orderingsOfSize, selections_map, List.flatMap_map, List.map_flatMap,
    arrangements_map]

end Map

theorem mem_selections :
    chosen ∈ selections size items ↔ chosen.Sublist items ∧ chosen.length = size := by
  induction items generalizing size chosen with
  | nil =>
      cases size with
      | zero => simp [selections]
      | succ size =>
          simp only [selections, List.not_mem_nil, List.sublist_nil, false_iff, not_and]
          rintro rfl
          simp
  | cons a rest ih =>
      cases size with
      | zero =>
          simp only [selections, List.mem_singleton, List.length_eq_zero_iff]
          constructor
          · rintro rfl
            exact ⟨List.nil_sublist _, rfl⟩
          · exact And.right
      | succ size =>
          simp only [selections, List.mem_append, List.mem_map, ih, List.sublist_cons_iff]
          constructor
          · rintro (⟨others, ⟨inside, count⟩, rfl⟩ | ⟨inside, count⟩)
            · exact ⟨.inr ⟨others, rfl, inside⟩, congrArg (· + 1) count⟩
            · exact ⟨.inl inside, count⟩
          · rintro ⟨inside | ⟨others, rfl, inside⟩, count⟩
            · exact .inr ⟨inside, count⟩
            · exact .inl ⟨others, ⟨inside, Nat.succ.inj count⟩, rfl⟩

/-- A pick takes one item out of the list. -/
theorem mem_picks {pick : α × List α} : pick ∈ picks items ↔
    ∃ before behind, items = before ++ pick.1 :: behind ∧ pick.2 = before ++ behind := by
  induction items generalizing pick with
  | nil => simp [picks]
  | cons a rest ih =>
      simp only [picks, List.mem_cons, List.mem_map, ih]
      constructor
      · rintro (rfl | ⟨other, ⟨before, behind, rfl, others⟩, rfl⟩)
        · exact ⟨[], rest, rfl, rfl⟩
        · exact ⟨a :: before, behind, rfl, congrArg (a :: ·) others⟩
      · rintro ⟨before, behind, whole, others⟩
        cases before with
        | nil =>
            obtain ⟨rfl, rfl⟩ := List.cons.inj whole
            exact .inl (Prod.ext rfl others)
        | cons b before =>
            obtain ⟨rfl, rfl⟩ := List.cons.inj whole
            refine .inr ⟨(pick.1, before ++ behind), ⟨before, behind, rfl, rfl⟩, ?_⟩
            exact Prod.ext rfl others.symm

theorem mem_arrangements (whole : items.length = size) :
    order ∈ arrangements size items ↔ order.Perm items := by
  induction size generalizing items order with
  | zero =>
      obtain rfl := List.length_eq_zero_iff.mp whole
      simp [arrangements]
  | succ size ih =>
      simp only [arrangements, List.mem_flatMap, List.mem_map]
      constructor
      · rintro ⟨⟨a, others⟩, picked, order, arranged, rfl⟩
        obtain ⟨before, behind, rfl, rfl⟩ := mem_picks.mp picked
        have count : (before ++ behind).length = size := by
          simp only [List.length_append, List.length_cons] at whole ⊢
          omega
        exact (((ih count).mp arranged).cons a).trans List.perm_middle.symm
      · intro arranged
        cases order with
        | nil => simp [List.nil_perm.mp arranged] at whole
        | cons a order =>
            obtain ⟨before, behind, rfl⟩ := List.append_of_mem (arranged.subset List.mem_cons_self)
            have count : (before ++ behind).length = size := by
              simp only [List.length_append, List.length_cons] at whole ⊢
              omega
            refine ⟨(a, before ++ behind), mem_picks.mpr ⟨before, behind, rfl, rfl⟩, order, ?_, rfl⟩
            exact (ih count).mpr (arranged.trans List.perm_middle).cons_inv

theorem mem_orderingsOfSize : order ∈ orderingsOfSize items size ↔
    ∃ chosen, chosen.Sublist items ∧ chosen.length = size ∧ order.Perm chosen := by
  simp only [orderingsOfSize, List.mem_flatMap, mem_selections, and_assoc]
  refine exists_congr fun chosen => and_congr_right fun _ => and_congr_right fun count => ?_
  exact mem_arrangements count

section Order

variable {related : α → α → Prop}

theorem pairwise_selections (ascending : items.Pairwise related) :
    (selections size items).Pairwise (List.Lex related) := by
  induction items generalizing size with
  | nil => cases size <;> simp [selections]
  | cons a rest ih =>
      obtain ⟨below, tail⟩ := List.pairwise_cons.mp ascending
      cases size with
      | zero => simp [selections]
      | succ size =>
          -- A selection with `a` differs from one without in its first item already.
          refine List.pairwise_append.mpr ⟨?_, ih tail, ?_⟩
          · exact List.pairwise_map.mpr ((ih tail).imp .cons)
          · intro first started second later
            obtain ⟨_, _, rfl⟩ := List.mem_map.mp started
            obtain ⟨inside, count⟩ := mem_selections.mp later
            cases second with
            | nil => cases count
            | cons b others => exact .rel (below b (inside.subset List.mem_cons_self))

theorem pairwise_picks (ascending : items.Pairwise related) :
    (picks items).Pairwise fun first second => related first.1 second.1 := by
  induction items with
  | nil => exact .nil
  | cons a rest ih =>
      obtain ⟨below, tail⟩ := List.pairwise_cons.mp ascending
      refine List.pairwise_cons.mpr ⟨?_, List.pairwise_map.mpr (ih tail)⟩
      intro other member
      obtain ⟨pick, picked, rfl⟩ := List.mem_map.mp member
      obtain ⟨before, behind, rfl, _⟩ := mem_picks.mp picked
      exact below pick.1 (by simp)

theorem pairwise_arrangements (ascending : items.Pairwise related) :
    (arrangements size items).Pairwise (List.Lex related) := by
  induction size generalizing items with
  | zero => simp [arrangements]
  | succ size ih =>
      refine List.pairwise_flatMap.mpr ⟨?_, ?_⟩
      · intro pick picked
        obtain ⟨before, behind, rfl, others⟩ := mem_picks.mp picked
        have rest : pick.2.Pairwise related :=
          others ▸ ascending.sublist (List.Sublist.append_left (List.sublist_cons_self ..) before)
        exact List.pairwise_map.mpr ((ih rest).imp .cons)
      · refine (pairwise_picks ascending).imp fun {first second} related => ?_
        intro order started other later
        obtain ⟨_, _, rfl⟩ := List.mem_map.mp started
        obtain ⟨_, _, rfl⟩ := List.mem_map.mp later
        exact .rel related

end Order

end LinkRouting.Pattern
