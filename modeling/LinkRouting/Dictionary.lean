namespace LinkRouting

/-! A finite map from strings, kept as a list of entries in ascending order of their keys, so
that equal maps are equal values and every listing comes out sorted.
-/

/-- Entries with strictly ascending keys. -/
structure Dictionary (α : Type u) where
  entries : List (String × α)
  ascending : entries.Pairwise fun a b => a.1 < b.1
deriving DecidableEq

namespace Dictionary

/-- `entries` with `value` under `key`, in place of what was there. -/
def place (key : String) (value : α) : List (String × α) → List (String × α)
  | [] => [(key, value)]
  | entry :: rest =>
      if key < entry.1 then (key, value) :: entry :: rest
      else if key = entry.1 then (key, value) :: rest
      else entry :: place key value rest

theorem mem_place {key : String} {value : α} {entry : String × α}
    {entries : List (String × α)} (member : entry ∈ place key value entries) :
    entry = (key, value) ∨ entry ∈ entries := by
  induction entries with
  | nil => simpa [place] using member
  | cons first rest ih =>
      simp only [place] at member
      split at member
      · simpa using member
      · split at member
        · rcases List.mem_cons.mp member with rfl | later
          · exact .inl rfl
          · exact .inr (List.mem_cons_of_mem _ later)
        · rcases List.mem_cons.mp member with rfl | later
          · exact .inr List.mem_cons_self
          · exact (ih later).imp_right (List.mem_cons_of_mem _)

theorem pairwise_place {key : String} {value : α} {entries : List (String × α)}
    (ascending : entries.Pairwise fun a b => a.1 < b.1) :
    (place key value entries).Pairwise fun a b => a.1 < b.1 := by
  induction entries with
  | nil => simp [place]
  | cons first rest ih =>
      obtain ⟨before, tail⟩ := List.pairwise_cons.mp ascending
      simp only [place]
      split
      · rename_i less
        refine List.pairwise_cons.mpr ⟨fun entry member => ?_, ascending⟩
        rcases List.mem_cons.mp member with rfl | later
        · exact less
        · exact String.lt_trans less (before entry later)
      · rename_i notLess
        split
        · rename_i same
          exact List.pairwise_cons.mpr ⟨fun entry member => same ▸ before entry member, tail⟩
        · rename_i different
          refine List.pairwise_cons.mpr ⟨fun entry member => ?_, ih tail⟩
          rcases mem_place member with rfl | later
          · grind
          · exact before entry later

def empty : Dictionary α := ⟨[], .nil⟩

instance : EmptyCollection (Dictionary α) := ⟨empty⟩

instance : Inhabited (Dictionary α) := ⟨empty⟩

def get? (map : Dictionary α) (key : String) : Option α :=
  map.entries.lookup key

def contains (map : Dictionary α) (key : String) : Bool :=
  (map.get? key).isSome

def insert (map : Dictionary α) (key : String) (value : α) : Dictionary α :=
  ⟨place key value map.entries, pairwise_place map.ascending⟩

def erase (map : Dictionary α) (key : String) : Dictionary α :=
  ⟨map.entries.filter fun entry => entry.1 ≠ key, map.ascending.filter _⟩

/-- The entries of `other` over those of `map`. -/
def overlay (map other : Dictionary α) : Dictionary α :=
  other.entries.foldl (fun merged entry => merged.insert entry.1 entry.2) map

/-- Later entries replace earlier ones of the same key. -/
def ofList (entries : List (String × α)) : Dictionary α :=
  entries.foldl (fun map entry => map.insert entry.1 entry.2) empty

def keys (map : Dictionary α) : List String :=
  map.entries.map (·.1)

def size (map : Dictionary α) : Nat :=
  map.entries.length

def mapValues (f : α → β) (map : Dictionary α) : Dictionary β :=
  ⟨map.entries.map fun entry => (entry.1, f entry.2),
    List.pairwise_map.mpr map.ascending⟩

theorem ext_entries {map other : Dictionary α} (same : map.entries = other.entries) :
    map = other := by
  cases map; cases other; cases same; rfl

end Dictionary

end LinkRouting
