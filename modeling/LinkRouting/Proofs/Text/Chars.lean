import LinkRouting.Text.Blank

namespace LinkRouting.Text

/-- Characters up to a bound can be checked one by one. -/
theorem of_below {P : Char → Prop} {c : Char} {bound : Nat}
    (checked : ∀ value ∈ List.range bound, P (Char.ofNat value)) (below : c.toNat < bound) :
    P c := by
  have found := checked c.toNat (List.mem_range.mpr below)
  rwa [Char.ofNat_toNat] at found

theorem below_of_isAlphanum {c : Char} (ascii : c.isAlphanum = true) : c.toNat < 128 := by
  have kinds : (c.isUpper = true ∨ c.isLower = true) ∨ c.isDigit = true :=
    ((Bool.or_eq_true ..).mp ascii).imp_left (Bool.or_eq_true ..).mp
  rcases kinds with (upper | lower) | digit
  · have bounds : 'A'.val ≤ c.val ∧ c.val ≤ 'Z'.val := of_decide_eq_true upper
    exact Nat.lt_of_le_of_lt bounds.2 (by decide)
  · have bound : c.val ≤ 'z'.val := of_decide_eq_true ((Bool.and_eq_true ..).mp lower).2
    exact Nat.lt_of_le_of_lt bound (by decide)
  · have bound : c.val ≤ '9'.val := of_decide_eq_true ((Bool.and_eq_true ..).mp digit).2
    exact Nat.lt_of_le_of_lt bound (by decide)

theorem toLower_cases (c : Char) : c.toLower = c ∨
    65 ≤ c.toNat ∧ c.toNat ≤ 90 ∧ c.toLower.toNat = c.toNat + 32 := by
  by_cases upper : c.val ≥ 'A'.val ∧ c.val ≤ 'Z'.val
  · have least : 65 ≤ c.toNat := upper.1
    have most : c.toNat ≤ 90 := upper.2
    have lower : c.toLower.toNat = c.toNat + 32 :=
      (congrArg Char.toNat (dif_pos upper)).trans ((UInt32.toNat_add ..).trans
        (Nat.mod_eq_of_lt (Nat.lt_of_le_of_lt (Nat.add_le_add_right most 32) (by decide))))
    exact .inr ⟨least, most, lower⟩
  · exact .inl (dif_neg upper)

theorem eq_of_toLower {c lower : Char} (unlettered : lower.toNat < 97)
    (same : c.toLower = lower) : c = lower := by
  rcases toLower_cases c with whole | ⟨least, _, raised⟩
  · exact whole.symm.trans same
  · rw [same] at raised
    omega

/-- A class that both cases of every letter are in does not depend on case. -/
theorem apply_toLower {f : Char → Bool}
    (checked : ∀ value ∈ List.range 91, f (Char.ofNat value).toLower = f (Char.ofNat value))
    (c : Char) : f c.toLower = f c := by
  rcases toLower_cases c with same | ⟨_, most, _⟩
  · rw [same]
  · exact of_below (P := fun c => f c.toLower = f c) checked (by omega)

theorem isBlank_toLower (c : Char) : isBlank c.toLower = isBlank c :=
  apply_toLower (by decide) c

theorem dropWhile_blank_toLower (text : List Char) :
    (text.map Char.toLower).dropWhile isBlank = (text.dropWhile isBlank).map Char.toLower := by
  have same : isBlank ∘ Char.toLower = isBlank := funext isBlank_toLower
  rw [List.dropWhile_map, same]

theorem toList_toLower (text : String) : text.toLower.toList = text.toList.map Char.toLower :=
  String.toList_map

theorem trim_toLower (text : String) : trim text.toLower = (trim text).toLower := by
  refine String.toList_injective ?_
  simp only [trim, trimBoth, toList_toLower, String.toList_ofList, dropWhile_blank_toLower,
    ← List.map_reverse]

end LinkRouting.Text
