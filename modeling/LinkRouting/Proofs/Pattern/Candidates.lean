import LinkRouting.Pattern.Expansion
import LinkRouting.Proofs.Pattern.Orderings
import LinkRouting.Proofs.Ranking

namespace LinkRouting.Pattern

section DistinctOn

variable {κ α β : Type} [DecidableEq κ] {key : α → κ} {seen : List κ} {items : List α}

theorem mem_keys_distinctOn {wanted : κ} : wanted ∈ (distinctOn key seen items).map key ↔
    wanted ∈ items.map key ∧ wanted ∉ seen := by
  induction items generalizing seen with
  | nil => simp [distinctOn]
  | cons a rest ih =>
      simp only [distinctOn]
      split
      · rename_i taken
        rw [ih, List.map_cons, List.mem_cons]
        constructor
        · exact fun ⟨later, fresh⟩ => ⟨.inr later, fresh⟩
        · rintro ⟨rfl | later, fresh⟩
          · exact absurd taken fresh
          · exact ⟨later, fresh⟩
      · rename_i free
        rw [List.map_cons, List.map_cons, List.mem_cons, List.mem_cons, ih, List.mem_cons, not_or]
        constructor
        · rintro (rfl | ⟨later, _, fresh⟩)
          · exact ⟨.inl rfl, free⟩
          · exact ⟨.inr later, fresh⟩
        · rintro ⟨rfl | later, fresh⟩
          · exact .inl rfl
          · by_cases same : wanted = key a
            · exact .inl same
            · exact .inr ⟨later, same, fresh⟩

theorem distinctOn_sublist : (distinctOn key seen items).Sublist items := by
  induction items generalizing seen with
  | nil => exact .slnil
  | cons a rest ih =>
      simp only [distinctOn]
      split
      · exact ih.cons a
      · exact ih.cons_cons a

theorem not_mem_seen {a : α} (member : a ∈ distinctOn key seen items) : key a ∉ seen :=
  (mem_keys_distinctOn.mp (List.mem_map_of_mem member)).2

/-- What is kept first comes first among all that has a key. -/
theorem pairwise_distinctOn {related : β → β → Prop} {sources : List β} {f : β → α}
    (before : sources.Pairwise related) :
    (distinctOn key seen (sources.map f)).Pairwise fun a b =>
      ∃ first ∈ sources, f first = a ∧
        ∀ other ∈ sources, key (f other) = key b → related first other := by
  induction sources generalizing seen with
  | nil => exact .nil
  | cons source rest ih =>
      obtain ⟨ahead, tail⟩ := List.pairwise_cons.mp before
      simp only [List.map_cons, distinctOn]
      split
      · rename_i taken
        -- What is kept has a key that was free, so the one passed over is none of its kind.
        refine (ih tail).imp_of_mem fun {a b} _ member ⟨first, inside, made, precedes⟩ => ?_
        refine ⟨first, List.mem_cons_of_mem _ inside, made, fun other among same => ?_⟩
        rcases List.mem_cons.mp among with rfl | later
        · exact absurd (same ▸ taken) (not_mem_seen member)
        · exact precedes other later same
      · refine List.pairwise_cons.mpr ⟨fun b member => ?_, ?_⟩
        · refine ⟨source, List.mem_cons_self, rfl, fun other among same => ?_⟩
          rcases List.mem_cons.mp among with rfl | later
          · exact absurd (same ▸ List.mem_cons_self) (not_mem_seen member)
          · exact ahead other later
        · refine (ih tail).imp_of_mem fun {a b} _ member ⟨first, inside, made, precedes⟩ => ?_
          refine ⟨first, List.mem_cons_of_mem _ inside, made, fun other among same => ?_⟩
          rcases List.mem_cons.mp among with rfl | later
          · exact absurd (same ▸ List.mem_cons_self) (not_mem_seen member)
          · exact precedes other later same

theorem nodup_distinctOn : ((distinctOn key seen items).map key).Nodup := by
  induction items generalizing seen with
  | nil => exact .nil
  | cons a rest ih =>
      simp only [distinctOn]
      split
      · exact ih
      · refine List.nodup_cons.mpr ⟨fun member => ?_, ih⟩
        exact (mem_keys_distinctOn.mp member).2 List.mem_cons_self

end DistinctOn

namespace Layout

variable (layout : Layout)

/-- The text that an order of the groups stands for. -/
def text (order : List (Fin layout.groups.length)) : List Char :=
  layout.stem ++ (order.map layout.groups.get).flatten

/-- An order without repetition stands for a path pattern with this canonical text. -/
structure Spells (order : List (Fin layout.groups.length)) (canonical : String) : Prop where
  distinct : order.Nodup
  visible : (layout.text order).all Text.isBlank = false
  canonical : (PathPattern.ofChars (layout.text order)).canonical = canonical

/-- The orders that do not stand for a blank text, one after the other. -/
def visibleOrders : List (List (Fin layout.groups.length)) :=
  (orderings (List.finRange layout.groups.length)).filter fun order =>
    !(layout.text order).all Text.isBlank

variable {layout} {order : List (Fin layout.groups.length)} {canonical : String}

theorem mem_visibleOrders : order ∈ layout.visibleOrders ↔
    order.Nodup ∧ (layout.text order).all Text.isBlank = false := by
  rw [visibleOrders, List.mem_filter, mem_orderings_finRange, Bool.not_eq_true']

theorem spells_iff : layout.Spells order canonical ↔
    order ∈ layout.visibleOrders ∧
      (PathPattern.ofChars (layout.text order)).canonical = canonical := by
  rw [mem_visibleOrders]
  exact ⟨fun spells => ⟨⟨spells.distinct, spells.visible⟩, spells.canonical⟩,
    fun ⟨⟨distinct, visible⟩, canonical⟩ => ⟨distinct, visible, canonical⟩⟩

variable (layout)

theorem spellings_eq : layout.spellings = layout.visibleOrders.map layout.text := by
  have groups : layout.groups = (List.finRange layout.groups.length).map layout.groups.get :=
    List.ext_getElem (by simp) (by simp)
  have orders : orderings layout.groups =
      (orderings (List.finRange layout.groups.length)).map (List.map layout.groups.get) :=
    (congrArg orderings groups).trans (orderings_map _ _)
  rw [spellings, orders, List.map_map, List.filter_map]
  rfl

theorem variants_eq : layout.variants = distinctOn PathPattern.canonical []
    (layout.visibleOrders.map fun order => PathPattern.ofChars (layout.text order)) := by
  rw [variants, spellings_eq, List.map_map]
  rfl

theorem pairwise_visibleOrders : layout.visibleOrders.Pairwise Precedes :=
  pairwise_orderings.filter _

theorem candidates_perm : layout.candidates.Perm layout.variants :=
  sortDescending_perm PathPattern.size layout.variants

/-- No two candidates have the same canonical text. -/
theorem nodup_candidates : (layout.candidates.map PathPattern.canonical).Nodup := by
  rw [(layout.candidates_perm.map _).nodup_iff]
  exact nodup_distinctOn

theorem mem_candidates : canonical ∈ layout.candidates.map PathPattern.canonical ↔
    ∃ order, layout.Spells order canonical := by
  rw [(layout.candidates_perm.map _).mem_iff, variants_eq, mem_keys_distinctOn, List.map_map,
    List.mem_map]
  simp [spells_iff]

theorem made_of_mem_candidates {candidate : PathPattern} (member : candidate ∈ layout.candidates) :
    ∃ order, layout.Spells order candidate.canonical ∧
      candidate = .ofChars (layout.text order) := by
  rw [layout.candidates_perm.mem_iff, variants_eq] at member
  obtain ⟨order, visible, rfl⟩ := List.mem_map.mp (distinctOn_sublist.subset member)
  exact ⟨order, spells_iff.mpr ⟨visible, rfl⟩, rfl⟩

theorem pairwise_candidates : layout.candidates.Pairwise fun a b =>
    b.size < a.size ∨ a.size = b.size ∧ ∃ first, layout.Spells first a.canonical ∧
      ∀ other, layout.Spells other b.canonical → Precedes first other := by
  have kept : layout.variants.Pairwise fun a b => ∃ first, layout.Spells first a.canonical ∧
      ∀ other, layout.Spells other b.canonical → Precedes first other := by
    rw [variants_eq]
    refine (pairwise_distinctOn layout.pairwise_visibleOrders).imp ?_
    rintro a b ⟨first, visible, rfl, precedes⟩
    refine ⟨first, spells_iff.mpr ⟨visible, rfl⟩, fun other spells => ?_⟩
    obtain ⟨among, same⟩ := spells_iff.mp spells
    exact precedes other among same
  exact (ranked_sortDescending PathPattern.size layout.variants).pairwise kept

end Layout

theorem compile_candidates {pattern : String} {read : Layout} {candidates : List PathPattern}
    (found : layout pattern = .ok read) (grouped : read.groups ≠ [])
    (compiled : compile pattern = .ok candidates) :
    candidates = read.candidates ∧ read.groups.length ≤ maxGroups := by
  have some : read.groups.isEmpty = false := by simpa using grouped
  simp only [compile, found, some, Bool.false_eq_true, if_false] at compiled
  split at compiled
  · cases compiled
  · rename_i few
    split at compiled
    · cases compiled
    · cases compiled
      exact ⟨rfl, Nat.le_of_not_lt few⟩

/-- Expansion is exact and keeps to the order of the orders: the canonical texts are those that
some order of the groups stands for, each is listed once, and they are listed by descending size
and then by where they first come up. -/
theorem compile_exact {pattern : String} {read : Layout} {candidates : List PathPattern}
    (found : layout pattern = .ok read) (grouped : read.groups ≠ [])
    (compiled : compile pattern = .ok candidates) :
    (candidates.map PathPattern.canonical).Nodup ∧
      (∀ canonical, canonical ∈ candidates.map PathPattern.canonical ↔
        ∃ order, read.Spells order canonical) ∧
      (∀ candidate ∈ candidates, ∃ order, read.Spells order candidate.canonical ∧
        candidate = .ofChars (read.text order)) ∧
      candidates.Pairwise fun a b => b.size < a.size ∨ a.size = b.size ∧
        ∃ first, read.Spells first a.canonical ∧
          ∀ other, read.Spells other b.canonical → Precedes first other := by
  obtain ⟨rfl, _⟩ := compile_candidates found grouped compiled
  exact ⟨read.nodup_candidates, fun _ => read.mem_candidates,
    fun _ member => read.made_of_mem_candidates member, read.pairwise_candidates⟩

/-- Two groups with the same body: four of the five orders stand for two path patterns. -/
theorem compile_repeated_group :
    let read : Layout := ⟨['/', 'a'], [['/', 'b'], ['/', 'b']]⟩
    let candidates : List PathPattern := [.ofString "/a/b/b", .ofString "/a/b", .ofString "/a"]
    layout "/a(/b)(/b)" = .ok read ∧ read.groups ≠ [] ∧
      compile "/a(/b)(/b)" = .ok candidates ∧
      (candidates.map PathPattern.canonical).Nodup ∧ ∃ order, read.Spells order "/a/b" := by
  intro read candidates
  have found : layout "/a(/b)(/b)" = .ok read := rfl
  have grouped : read.groups ≠ [] := by simp [read]
  have compiled : compile "/a(/b)(/b)" = .ok candidates := rfl
  obtain ⟨distinct, exact, _⟩ := compile_exact found grouped compiled
  have listed : "/a/b" ∈ candidates.map PathPattern.canonical := by decide
  exact ⟨found, grouped, compiled, distinct, (exact "/a/b").mp listed⟩

end LinkRouting.Pattern
