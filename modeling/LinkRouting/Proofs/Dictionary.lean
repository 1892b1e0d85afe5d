import LinkRouting.Dictionary

namespace LinkRouting.Dictionary

variable {map : Dictionary α} {key other : String} {value : α}

theorem lookup_cons_eq_ite (entry : String × α) (rest : List (String × α)) :
    (entry :: rest).lookup other =
      if other = entry.1 then some entry.2 else rest.lookup other := by
  rw [List.lookup_cons]
  by_cases same : other = entry.1
  · simp [same]
  · have passed : (other == entry.1) = false := by simpa using same
    simp [passed, same]

theorem lookup_place (entries : List (String × α)) :
    (place key value entries).lookup other =
      if other = key then some value else entries.lookup other := by
  induction entries with
  | nil => simp [place, lookup_cons_eq_ite]
  | cons first rest ih =>
      simp only [place]
      split
      · rw [lookup_cons_eq_ite]
      · split
        · rename_i same
          simp only [lookup_cons_eq_ite, ← same]
          split <;> rfl
        · rename_i different
          simp only [lookup_cons_eq_ite, ih]
          by_cases wanted : other = key
          · simp [wanted, different]
          · simp [wanted]

@[simp] theorem get?_empty : (empty : Dictionary α).get? key = none :=
  rfl

/-- Inserting changes what is found under one key and nothing else. -/
theorem get?_insert : (map.insert key value).get? other =
    if other = key then some value else map.get? other :=
  lookup_place map.entries

theorem lookup_filter_ne (entries : List (String × α)) :
    (entries.filter fun entry => entry.1 ≠ key).lookup other =
      if other = key then none else entries.lookup other := by
  induction entries with
  | nil => simp
  | cons first rest ih =>
      rw [lookup_cons_eq_ite]
      by_cases same : first.1 = key
      · rw [List.filter_cons_of_neg (by simp [same]), ih, same]
        by_cases wanted : other = key
        · simp [wanted]
        · simp [wanted]
      · rw [List.filter_cons_of_pos (by simp [same]), lookup_cons_eq_ite, ih]
        by_cases wanted : other = key
        · simp [wanted, Ne.symm same]
        · simp [wanted]

theorem get?_erase : (map.erase key).get? other =
    if other = key then none else map.get? other :=
  lookup_filter_ne map.entries

/-- Keys are distinct, so an entry of the list is the one that is found under its key. -/
theorem get?_of_mem {entry : String × α} (member : entry ∈ map.entries) :
    map.get? entry.1 = some entry.2 := by
  obtain ⟨entries, ascending⟩ := map
  change entry ∈ entries at member
  change entries.lookup entry.1 = some entry.2
  induction entries with
  | nil => cases member
  | cons first rest ih =>
      obtain ⟨before, tail⟩ := List.pairwise_cons.mp ascending
      rw [lookup_cons_eq_ite]
      rcases List.mem_cons.mp member with rfl | later
      · simp
      · have different : entry.1 ≠ first.1 := by
          intro same
          have less := before entry later
          rw [same] at less
          exact String.lt_irrefl _ less
        rw [if_neg different]
        exact ih tail later

theorem nodup_keys (map : Dictionary α) : map.keys.Nodup :=
  List.pairwise_map.mpr (map.ascending.imp String.ne_of_lt)

theorem mem_keys_iff : key ∈ map.keys ↔ map.get? key ≠ none := by
  rw [← Option.isSome_iff_ne_none, get?, List.lookup_isSome_iff, keys, List.mem_map]
  exact exists_congr fun entry => and_congr_right fun _ => by rw [beq_iff_eq, eq_comm]

/-- Of entries inserted one after the other, the last under a key is found. -/
theorem get?_foldl_insert (map : Dictionary α) (f : β → α) (entries : List (String × β))
    (other : String) :
    (entries.foldl (fun merged entry => merged.insert entry.1 (f entry.2)) map).get? other =
      ((entries.reverse.lookup other).map f).or (map.get? other) := by
  induction entries generalizing map with
  | nil => rfl
  | cons first rest ih =>
      rw [List.foldl_cons, ih, get?_insert, List.reverse_cons, List.lookup_append,
        lookup_cons_eq_ite, List.lookup_nil]
      cases rest.reverse.lookup other with
      | some later => rfl
      | none => by_cases here : other = first.1 <;> simp [here]

theorem lookup_reverse_entries : map.entries.reverse.lookup other = map.get? other := by
  obtain ⟨entries, ascending⟩ := map
  change entries.reverse.lookup other = entries.lookup other
  induction entries with
  | nil => rfl
  | cons first rest ih =>
      obtain ⟨before, tail⟩ := List.pairwise_cons.mp ascending
      rw [List.reverse_cons, List.lookup_append, ih tail, lookup_cons_eq_ite, lookup_cons_eq_ite,
        List.lookup_nil]
      by_cases here : other = first.1
      · have absent : rest.lookup other = none := by
          refine List.lookup_eq_none_iff.mpr fun entry member => ?_
          have less := before entry member
          simp only [here, bne_iff_ne, ne_eq]
          rintro same
          exact String.lt_irrefl _ (same ▸ less)
        simp [absent]
      · simp [here]

/-- What the overlay holds is found in preference to what is below it. -/
theorem get?_overlay (above : Dictionary α) :
    (map.overlay above).get? other = (above.get? other).or (map.get? other) := by
  have found := map.get?_foldl_insert id above.entries other
  rwa [lookup_reverse_entries, Option.map_id] at found

theorem map_place (f : α → β) (entries : List (String × α)) :
    (place key value entries).map (fun entry => (entry.1, f entry.2)) =
      place key (f value) (entries.map fun entry => (entry.1, f entry.2)) := by
  induction entries with
  | nil => rfl
  | cons first rest ih =>
      simp only [place, List.map_cons]
      split
      · rfl
      · split
        · rfl
        · rw [List.map_cons, ih]

theorem mapValues_insert (f : α → β) :
    (map.insert key value).mapValues f = (map.mapValues f).insert key (f value) :=
  ext_entries (map_place f map.entries)

theorem get?_mapValues (f : α → β) : (map.mapValues f).get? key = (map.get? key).map f := by
  obtain ⟨entries, ascending⟩ := map
  change (entries.map fun entry => (entry.1, f entry.2)).lookup key = (entries.lookup key).map f
  clear ascending
  induction entries with
  | nil => rfl
  | cons first rest ih =>
      rw [List.map_cons, lookup_cons_eq_ite, lookup_cons_eq_ite, ih]
      split <;> rfl

theorem mapValues_mapValues (f : α → β) (g : β → γ) :
    (map.mapValues f).mapValues g = map.mapValues (g ∘ f) :=
  ext_entries (List.map_map ..)

theorem place_of_greatest {entries : List (String × α)}
    (greatest : ∀ entry ∈ entries, entry.1 < key) :
    place key value entries = entries ++ [(key, value)] := by
  induction entries with
  | nil => rfl
  | cons first rest ih =>
      obtain ⟨less, others⟩ := List.forall_mem_cons.mp greatest
      have notBefore : ¬key < first.1 := String.lt_asymm less
      have different : key ≠ first.1 := (String.ne_of_lt less).symm
      rw [place, if_neg notBefore, if_neg different, ih others, List.cons_append]

theorem entries_foldl_insert {entries : List (String × α)}
    (ascending : (map.entries ++ entries).Pairwise fun a b => a.1 < b.1) :
    (entries.foldl (fun map entry => map.insert entry.1 entry.2) map).entries =
      map.entries ++ entries := by
  induction entries generalizing map with
  | nil => exact (List.append_nil _).symm
  | cons first rest ih =>
      have greatest : ∀ entry ∈ map.entries, entry.1 < first.1 := fun entry member =>
        (List.pairwise_append.mp ascending).2.2 entry member first List.mem_cons_self
      have placed : (map.insert first.1 first.2).entries = map.entries ++ [first] :=
        place_of_greatest greatest
      have split : map.entries ++ first :: rest = (map.insert first.1 first.2).entries ++ rest := by
        rw [placed, List.append_assoc, List.singleton_append]
      rw [split] at ascending ⊢
      exact ih ascending

/-- A dictionary is made of its own entries. -/
theorem ofList_entries (map : Dictionary α) : ofList map.entries = map :=
  ext_entries (entries_foldl_insert map.ascending)

theorem mapValues_eq_self_iff {f : α → α} : map.mapValues f = map ↔
    ∀ key value, map.get? key = some value → f value = value := by
  constructor
  · intro same key value found
    have mapped : (map.mapValues f).get? key = (map.get? key).map f := map.get?_mapValues f
    rw [same, found] at mapped
    exact (Option.some.inj mapped).symm
  · intro fixed
    have kept : ∀ entry ∈ map.entries, (entry.1, f entry.2) = id entry := fun entry member =>
      Prod.ext rfl (fixed entry.1 entry.2 (get?_of_mem member))
    exact ext_entries ((List.map_congr_left kept).trans (List.map_id _))

theorem keys_mapValues (f : α → β) : (map.mapValues f).keys = map.keys :=
  List.map_map ..

theorem size_mapValues (f : α → β) : (map.mapValues f).size = map.size :=
  List.length_map ..

end LinkRouting.Dictionary
