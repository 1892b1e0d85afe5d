import LinkRouting.Ranking
import Mathlib.Data.List.Find

namespace LinkRouting

/-! Stable sorting by descending key, said without an algorithm: the keys descend, and the items
of any one key stand in their own order.  Only one list is like that, whichever way it comes
about.
-/

variable {key : α → Nat} {items sorted : List α} {a : α} {wanted : α → Bool}

/-- The items of one key. -/
def tier (key : α → Nat) (rank : Nat) (items : List α) : List α :=
  items.filter fun a => key a = rank

/-- `sorted` is the stable sort of `items` by descending key. -/
structure Ranked (key : α → Nat) (items sorted : List α) : Prop where
  descending : sorted.Pairwise fun a b => key b ≤ key a
  tiers : ∀ rank, tier key rank sorted = tier key rank items

theorem mem_tier {rank : Nat} : a ∈ tier key rank items ↔ a ∈ items ∧ key a = rank := by
  simp [tier]

@[simp] theorem tier_append (rank : Nat) (left right : List α) :
    tier key rank (left ++ right) = tier key rank left ++ tier key rank right := by
  simp [tier]

theorem tier_cons_self : tier key (key a) (a :: items) = a :: tier key (key a) items := by
  simp [tier]

theorem tier_cons_other {rank : Nat} (different : key a ≠ rank) :
    tier key rank (a :: items) = tier key rank items := by
  simp [tier, different]

namespace Ranked

theorem mem_iff (ranked : Ranked key items sorted) : a ∈ sorted ↔ a ∈ items := by
  have same := ranked.tiers (key a)
  constructor
  · intro member
    exact (mem_tier.mp (same ▸ mem_tier.mpr ⟨member, rfl⟩)).1
  · intro member
    exact (mem_tier.mp (same.symm ▸ mem_tier.mpr ⟨member, rfl⟩)).1

theorem any_eq (ranked : Ranked key items sorted) : sorted.any wanted = items.any wanted := by
  rw [Bool.eq_iff_iff, List.any_eq_true, List.any_eq_true]
  exact exists_congr fun a => and_congr_left' ranked.mem_iff

/-- Lists in descending order with the same tiers are equal. -/
theorem eq_of_tiers {first second : List α}
    (firstDescends : first.Pairwise fun a b => key b ≤ key a)
    (secondDescends : second.Pairwise fun a b => key b ≤ key a)
    (tiers : ∀ rank, tier key rank first = tier key rank second) : first = second := by
  induction first generalizing second with
  | nil =>
      cases second with
      | nil => rfl
      | cons b rest => simpa [tier_cons_self, tier] using tiers (key b)
  | cons a others ih =>
      cases second with
      | nil => simpa [tier_cons_self, tier] using tiers (key a)
      | cons b rest =>
          obtain ⟨aboveOthers, othersDescend⟩ := List.pairwise_cons.mp firstDescends
          obtain ⟨aboveRest, restDescends⟩ := List.pairwise_cons.mp secondDescends
          have upper : key a ≤ key b := by
            have member : a ∈ b :: rest :=
              (mem_tier.mp (tiers (key a) ▸ mem_tier.mpr ⟨List.mem_cons_self, rfl⟩)).1
            rcases List.mem_cons.mp member with same | later
            · exact Nat.le_of_eq (congrArg key same)
            · exact aboveRest a later
          have lower : key b ≤ key a := by
            have member : b ∈ a :: others :=
              (mem_tier.mp ((tiers (key b)).symm ▸ mem_tier.mpr ⟨List.mem_cons_self, rfl⟩)).1
            rcases List.mem_cons.mp member with same | later
            · exact Nat.le_of_eq (congrArg key same)
            · exact aboveOthers b later
          have level : key a = key b := Nat.le_antisymm upper lower
          have top := tiers (key a)
          rw [tier_cons_self, level, tier_cons_self] at top
          obtain ⟨rfl, _⟩ := List.cons.inj top
          have below : ∀ rank, tier key rank others = tier key rank rest := by
            intro rank
            have whole := tiers rank
            by_cases here : key a = rank
            · subst here
              rw [tier_cons_self, tier_cons_self] at whole
              exact (List.cons.inj whole).2
            · rwa [tier_cons_other here, tier_cons_other here] at whole
          rw [ih othersDescend restDescends below]

/-- There is only one stable sort. -/
theorem unique {other : List α} (ranked : Ranked key items sorted)
    (again : Ranked key items other) : sorted = other :=
  eq_of_tiers ranked.descending again.descending
    fun rank => (ranked.tiers rank).trans (again.tiers rank).symm

end Ranked

theorem mem_insertDescending {b : α} :
    b ∈ insertDescending key a items ↔ b = a ∨ b ∈ items := by
  rw [(insertDescending_perm key a items).mem_iff, List.mem_cons]

theorem insertDescending_descending (descending : items.Pairwise fun a b => key b ≤ key a) :
    (insertDescending key a items).Pairwise fun a b => key b ≤ key a := by
  induction items with
  | nil => simp [insertDescending]
  | cons b rest ih =>
      obtain ⟨above, restDescends⟩ := List.pairwise_cons.mp descending
      simp only [insertDescending]
      split
      · rename_i lower
        refine List.pairwise_cons.mpr ⟨fun c member => ?_, descending⟩
        rcases List.mem_cons.mp member with rfl | later
        · exact Nat.le_of_lt lower
        · exact Nat.le_trans (above c later) (Nat.le_of_lt lower)
      · rename_i upper
        refine List.pairwise_cons.mpr ⟨fun c member => ?_, ih restDescends⟩
        rcases mem_insertDescending.mp member with rfl | later
        · exact Nat.le_of_not_lt upper
        · exact above c later

/-- What is inserted comes last in its tier. -/
theorem tier_insertDescending (descending : items.Pairwise fun a b => key b ≤ key a)
    (rank : Nat) :
    tier key rank (insertDescending key a items) = tier key rank (items ++ [a]) := by
  induction items with
  | nil => rfl
  | cons b rest ih =>
      obtain ⟨above, restDescends⟩ := List.pairwise_cons.mp descending
      simp only [insertDescending]
      split
      · rename_i lower
        by_cases here : key a = rank
        · have nothing : tier key rank (b :: rest) = [] := by
            apply List.filter_eq_nil_iff.mpr
            intro c member
            have bound : key c ≤ key b := by
              rcases List.mem_cons.mp member with rfl | later
              · exact Nat.le_refl _
              · exact above c later
            simp only [decide_eq_true_eq]
            omega
          subst here
          rw [tier_cons_self, tier_append, nothing]
          simp [tier]
        · rw [tier_cons_other here, tier_append]
          simp [tier, here]
      · have behind := ih restDescends
        simp only [tier, List.cons_append, List.filter_cons] at behind ⊢
        rw [behind]

namespace Ranked

theorem insert (ranked : Ranked key items sorted) :
    Ranked key (items ++ [a]) (insertDescending key a sorted) where
  descending := insertDescending_descending ranked.descending
  tiers rank := by
    rw [tier_insertDescending ranked.descending, tier_append, tier_append, ranked.tiers rank]

theorem nil : Ranked key [] ([] : List α) :=
  ⟨.nil, fun _ => rfl⟩

theorem foldl_insert (ranked : Ranked key items sorted) (more : List α) :
    Ranked key (items ++ more)
      (more.foldl (fun sorted a => insertDescending key a sorted) sorted) := by
  induction more generalizing items sorted with
  | nil => simpa using ranked
  | cons b rest ih => simpa using ih ranked.insert

end Ranked

theorem ranked_sortDescending (key : α → Nat) (items : List α) :
    Ranked key items (sortDescending key items) :=
  Ranked.nil.foldl_insert items

theorem foldl_insertDescending_perm (more : List α) :
    (more.foldl (fun sorted a => insertDescending key a sorted) sorted).Perm (more ++ sorted) := by
  induction more generalizing sorted with
  | nil => exact .refl _
  | cons a rest ih =>
      exact (ih.trans ((insertDescending_perm key a sorted).append_left rest)).trans
        List.perm_middle

theorem sortDescending_perm (key : α → Nat) (items : List α) :
    (sortDescending key items).Perm items := by
  have sorted : (sortDescending key items).Perm (items ++ []) := foldl_insertDescending_perm items
  rwa [List.append_nil] at sorted

/-- The library's merge sort is stable in this sense too. -/
theorem ranked_mergeSort (key : α → Nat) (items : List α) :
    Ranked key items (items.mergeSort fun a b => key b ≤ key a) := by
  have trans : ∀ a b c : α, decide (key b ≤ key a) = true → decide (key c ≤ key b) = true →
      decide (key c ≤ key a) = true := by
    intro a b c first second
    simp only [decide_eq_true_eq] at first second ⊢
    omega
  have total : ∀ a b : α, (decide (key b ≤ key a) || decide (key a ≤ key b)) = true := by
    intro a b
    simp only [Bool.or_eq_true, decide_eq_true_eq]
    omega
  refine ⟨(List.pairwise_mergeSort trans total items).imp (by simp), fun rank => ?_⟩
  have level : (tier key rank items).Pairwise fun a b => decide (key b ≤ key a) = true := by
    apply List.pairwise_of_forall_mem_list
    intro a aMember b bMember
    simp [(mem_tier.mp aMember).2, (mem_tier.mp bMember).2]
  have inside := (List.sublist_mergeSort trans total level List.filter_sublist).filter
    fun a => key a = rank
  have size : (tier key rank items).length =
      (tier key rank (items.mergeSort fun a b => key b ≤ key a)).length :=
    ((List.mergeSort_perm items _).symm.filter _).length_eq
  have whole : (tier key rank items).filter (fun a => key a = rank) = tier key rank items := by
    simp [tier]
  rw [whole] at inside
  exact (inside.eq_of_length size).symm

theorem sortDescending_eq_mergeSort (key : α → Nat) (items : List α) :
    sortDescending key items = items.mergeSort fun a b => key b ≤ key a :=
  (ranked_sortDescending key items).unique (ranked_mergeSort key items)

/-- A stable sort keeps what is said of earlier and later items, among those of one key. -/
theorem Ranked.pairwise {related : α → α → Prop} (ranked : Ranked key items sorted)
    (before : items.Pairwise related) :
    sorted.Pairwise fun a b => key b < key a ∨ key a = key b ∧ related a b := by
  refine List.pairwise_of_forall_sublist fun {a b} pair => ?_
  have bound : key b ≤ key a := ranked.descending.forall_sublist pair
  rcases Nat.lt_or_eq_of_le bound with lower | level
  · exact .inl lower
  · have inside : (tier key (key a) [a, b]).Sublist (tier key (key a) sorted) := pair.filter _
    have whole : tier key (key a) [a, b] = [a, b] := by simp [tier, level]
    rw [whole, ranked.tiers] at inside
    exact .inr ⟨level.symm, before.forall_sublist (inside.trans List.filter_sublist)⟩

/-! Taking away the first wanted item of a sorted list takes away the first of the greatest key
from the unsorted one.
-/

theorem filter_eraseP (p q : α → Bool) (items : List α) :
    (items.eraseP p).filter q =
      if (items.find? p).any q then (items.filter q).eraseP p else items.filter q := by
  induction items with
  | nil => simp
  | cons b rest ih =>
      by_cases here : p b = true
      · by_cases kept : q b = true
        · simp [here, kept]
        · simp [here, kept]
      · by_cases kept : q b = true
        · simp only [List.eraseP_cons_of_neg here, List.find?_cons_of_neg here,
            List.filter_cons_of_pos kept, ih]
          split <;> rfl
        · simp only [List.eraseP_cons_of_neg here, List.find?_cons_of_neg here,
            List.filter_cons_of_neg kept, ih]

theorem eraseP_congr {p q : α → Bool} (same : ∀ a ∈ items, p a = q a) :
    items.eraseP p = items.eraseP q := by
  induction items with
  | nil => rfl
  | cons b rest ih =>
      rw [List.eraseP_cons, List.eraseP_cons, same b List.mem_cons_self,
        ih fun a member => same a (List.mem_cons_of_mem b member)]

/-- Whether `a` is wanted and has the greatest key of all that are. -/
def leads (key : α → Nat) (wanted : α → Bool) (items : List α) (a : α) : Bool :=
  wanted a && items.all fun b => !wanted b || key b ≤ key a

/-- Takes away the first of the wanted items that have the greatest key. -/
def eraseLeading (key : α → Nat) (wanted : α → Bool) (items : List α) : List α :=
  items.eraseP (leads key wanted items)

theorem leads_iff : leads key wanted items a = true ↔
    wanted a = true ∧ ∀ b ∈ items, wanted b = true → key b ≤ key a := by
  simp only [leads, Bool.and_eq_true, List.all_eq_true, Bool.or_eq_true, Bool.not_eq_true',
    decide_eq_true_eq]
  refine and_congr_right fun _ => forall₂_congr fun b _ => ?_
  cases wanted b <;> simp

theorem leads_of_mem_tier {b : α} (leading : leads key wanted items a = true)
    (member : b ∈ tier key (key a) items) : leads key wanted items b = wanted b := by
  obtain ⟨_, level⟩ := mem_tier.mp member
  obtain ⟨_, bound⟩ := leads_iff.mp leading
  cases want : wanted b with
  | false => simp [leads, want]
  | true => exact leads_iff.mpr ⟨want, fun c inside also => level ▸ bound c inside also⟩

theorem find?_filter_of_find? {p q : α → Bool} (found : items.find? p = some a)
    (kept : q a = true) : (items.filter q).find? p = some a := by
  obtain ⟨here, before, behind, split, none⟩ := List.find?_eq_some_iff_append.mp found
  rw [List.find?_filter]
  refine List.find?_eq_some_iff_append.mpr ⟨by simp [here, kept], before, behind, split, ?_⟩
  intro earlier member
  have skipped := none earlier member
  simp_all

namespace Ranked

/-- The first wanted item of a sorted list has the greatest key of all that are wanted. -/
theorem leads_of_find? (ranked : Ranked key items sorted) (found : sorted.find? wanted = some a) :
    leads key wanted items a = true := by
  obtain ⟨here, before, behind, rfl, none⟩ := List.find?_eq_some_iff_append.mp found
  refine leads_iff.mpr ⟨here, fun b member want => ?_⟩
  rcases List.mem_append.mp (ranked.mem_iff.mpr member) with earlier | rest
  · have skipped := none b earlier
    simp [want] at skipped
  · rcases List.mem_cons.mp rest with rfl | later
    · exact Nat.le_refl _
    · have behindDescends := (List.pairwise_append.mp ranked.descending).2.1
      exact (List.pairwise_cons.mp behindDescends).1 b later

/-- It is the first of those also in the list that was sorted. -/
theorem find?_eq (ranked : Ranked key items sorted) :
    sorted.find? wanted = items.find? (leads key wanted items) := by
  cases found : sorted.find? wanted with
  | none =>
      refine (List.find?_eq_none.mpr fun a member leading => ?_).symm
      exact List.find?_eq_none.mp found a (ranked.mem_iff.mpr member) (leads_iff.mp leading).1
  | some a =>
      have leading := ranked.leads_of_find? found
      have member : a ∈ items := ranked.mem_iff.mp (List.mem_of_find?_eq_some found)
      cases search : items.find? (leads key wanted items) with
      | none => exact absurd leading (List.find?_eq_none.mp search a member)
      | some first =>
          obtain ⟨firstWanted, firstBound⟩ := leads_iff.mp (List.find?_some search)
          obtain ⟨here, bound⟩ := leads_iff.mp leading
          have upper := bound first (List.mem_of_find?_eq_some search) firstWanted
          have level : key first = key a := Nat.le_antisymm upper (firstBound a member here)
          -- Both are the first wanted item of one tier, and sorting leaves a tier as it is.
          have onTop : (tier key (key a) sorted).find? wanted = some a :=
            find?_filter_of_find? found (by simp)
          have firstOnTop : (tier key (key a) items).find? (leads key wanted items) = some first :=
            find?_filter_of_find? search (by simp [level])
          rw [List.find?_congr fun b inside => leads_of_mem_tier leading inside, ← ranked.tiers,
            onTop] at firstOnTop
          exact firstOnTop

theorem eraseLeading (ranked : Ranked key items sorted) :
    Ranked key (eraseLeading key wanted items) (sorted.eraseP wanted) := by
  refine ⟨ranked.descending.sublist List.eraseP_sublist, fun rank => ?_⟩
  have tiers : sorted.filter (fun a => key a = rank) = items.filter fun a => key a = rank :=
    ranked.tiers rank
  simp only [LinkRouting.eraseLeading, tier, filter_eraseP, ← ranked.find?_eq]
  cases found : sorted.find? wanted with
  | none => simpa using tiers
  | some a =>
      simp only [Option.any_some]
      split
      · rename_i here
        have top : key a = rank := of_decide_eq_true here
        rw [tiers]
        refine eraseP_congr fun b member => ?_
        exact (leads_of_mem_tier (ranked.leads_of_find? found) (top ▸ member)).symm
      · exact tiers

end Ranked

theorem eraseLeading_of_not_any (none : items.any wanted = false) :
    eraseLeading key wanted items = items := by
  refine List.eraseP_of_forall_not fun a member leading => ?_
  exact List.any_eq_false.mp none a member (leads_iff.mp leading).1

/-- If something is wanted, exactly one item goes. -/
theorem length_eraseLeading (some : items.any wanted = true) :
    (eraseLeading key wanted items).length + 1 = items.length := by
  have sort := ranked_sortDescending key items
  obtain ⟨a, member, want⟩ := List.any_eq_true.mp some
  cases found : (sortDescending key items).find? wanted with
  | none => exact absurd want (List.find?_eq_none.mp found a (sort.mem_iff.mpr member))
  | some gone =>
      have search := sort.find?_eq.symm.trans found
      have inside := List.mem_of_find?_eq_some search
      have positive := List.length_pos_of_mem inside
      rw [eraseLeading, List.length_eraseP_of_mem inside (List.find?_some search)]
      omega

end LinkRouting
