import LinkRouting.Proofs.Text.Utf8
import LinkRouting.Text.Percent

namespace LinkRouting.Text.Percent

variable {keep : Char → Bool} {text : List Char} {c : Char}

theorem digitValue?_digit : ∀ value ∈ List.range 16, digitValue? (digit value) = some value := by
  decide

theorem digit_mem : ∀ value ∈ List.range 16, digit value ∈ "0123456789ABCDEF".toList := by
  decide

theorem bytes_escapeByte (byte : UInt8) (rest : List Char) :
    bytes (escapeByte byte ++ rest) = byte :: bytes rest := by
  have bound : byte.toNat < 256 := byte.toNat_lt
  have high := digitValue?_digit (byte.toNat / 16) (List.mem_range.mpr (by omega))
  have low := digitValue?_digit (byte.toNat % 16) (List.mem_range.mpr (by omega))
  have value : byte.toNat / 16 * 16 + byte.toNat % 16 = byte.toNat := by omega
  simp only [escapeByte, List.cons_append, List.nil_append, bytes, high, low, value,
    UInt8.ofNat_toNat]

theorem bytes_flatMap_escapeByte (written : List UInt8) (rest : List Char) :
    bytes (written.flatMap escapeByte ++ rest) = written ++ bytes rest := by
  induction written with
  | nil => rfl
  | cons byte others ih =>
      rw [List.flatMap_cons, List.append_assoc, bytes_escapeByte, ih, List.cons_append]

theorem bytes_cons (unescaped : c ≠ '%') (rest : List Char) :
    bytes (c :: rest) = String.utf8EncodeChar c ++ bytes rest := by
  rw [bytes]
  rintro _ _ _ rfl _
  exact unescaped rfl

theorem bytes_encode (escaped : keep '%' = false) (text : List Char) :
    bytes (encode keep text) = Utf8.encode text := by
  induction text with
  | nil => rfl
  | cons c rest ih =>
      have tail : (rest.flatMap fun c =>
          if keep c then [c] else (String.utf8EncodeChar c).flatMap escapeByte) =
            encode keep rest := rfl
      rw [encode, List.flatMap_cons, tail, Utf8.encode, List.flatMap_cons, ← Utf8.encode, ← ih]
      by_cases kept : keep c = true
      · have different : c ≠ '%' := by
          rintro rfl
          rw [escaped] at kept
          cases kept
        rw [if_pos kept, List.singleton_append, bytes_cons different]
      · rw [if_neg kept, bytes_flatMap_escapeByte]

/-- What is decoded is what was encoded. -/
theorem decode_encode (escaped : keep '%' = false) (text : List Char) :
    decode (encode keep text) = text := by
  rw [decode, bytes_encode escaped, Utf8.decode_encode]

theorem bytes_of_not_mem (unescaped : '%' ∉ text) : bytes text = Utf8.encode text := by
  induction text with
  | nil => rfl
  | cons c rest ih =>
      have different : c ≠ '%' := fun same => unescaped (same ▸ List.mem_cons_self)
      have later := ih fun member => unescaped (List.mem_cons_of_mem c member)
      rw [bytes_cons different, later]
      rfl

theorem decode_of_not_mem (unescaped : '%' ∉ text) : decode text = text := by
  rw [decode, bytes_of_not_mem unescaped, Utf8.decode_encode]

theorem encode_of_kept (kept : ∀ c ∈ text, keep c = true) : encode keep text = text := by
  induction text with
  | nil => rfl
  | cons c rest ih =>
      have later := ih fun other member => kept other (List.mem_cons_of_mem c member)
      unfold encode at later ⊢
      rw [List.flatMap_cons, if_pos (kept c List.mem_cons_self), later, List.singleton_append]

theorem mem_escapeByte {byte : UInt8} (member : c ∈ escapeByte byte) :
    c ∈ "%0123456789ABCDEF".toList := by
  have bound : byte.toNat < 256 := byte.toNat_lt
  have high := digit_mem (byte.toNat / 16) (List.mem_range.mpr (by omega))
  have low := digit_mem (byte.toNat % 16) (List.mem_range.mpr (by omega))
  have split : "%0123456789ABCDEF".toList = '%' :: "0123456789ABCDEF".toList := by decide
  rw [split]
  simp only [escapeByte, List.mem_cons, List.not_mem_nil, or_false] at member
  rcases member with rfl | rfl | rfl
  · exact List.mem_cons_self
  · exact List.mem_cons_of_mem _ high
  · exact List.mem_cons_of_mem _ low

theorem mem_encode (member : c ∈ encode keep text) :
    c ∈ text ∧ keep c = true ∨ c ∈ "%0123456789ABCDEF".toList := by
  obtain ⟨original, among, written⟩ := List.mem_flatMap.mp member
  split at written
  · rename_i kept
    obtain rfl := List.mem_singleton.mp written
    exact .inl ⟨among, kept⟩
  · obtain ⟨byte, _, escape⟩ := List.mem_flatMap.mp written
    exact .inr (mem_escapeByte escape)

theorem encode_eq_nil_iff (escaped : keep '%' = false) : encode keep text = [] ↔ text = [] := by
  constructor
  · intro empty
    have read := decode_encode escaped text
    rw [empty] at read
    exact read.symm
  · rintro rfl
    rfl

theorem bytes_eq_nil_iff : bytes text = [] ↔ text = [] := by
  unfold bytes
  split
  · simp
  · split <;> simp
  · simp [String.utf8EncodeChar_ne_nil]

theorem decode_eq_nil_iff : decode text = [] ↔ text = [] := by
  rw [decode, Utf8.decode_eq_nil_iff, bytes_eq_nil_iff]

end LinkRouting.Text.Percent
