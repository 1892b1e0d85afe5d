import LinkRouting.Text.Utf8
import Mathlib.Data.List.Range

namespace LinkRouting.Text.Utf8

/-! What was written as UTF-8 is read back, character by character.  The low six bits of every byte
but the first are a digit to the base of 64, and the first byte has the digit before them.
-/

variable {code owed least greatest low : Nat} {rest : List UInt8}

theorem toNat_tail (fits : low < 64) : (UInt8.ofNat (low + 128)).toNat = low + 128 :=
  Nat.mod_eq_of_lt (by omega)

theorem Pending.admits_tail (pending : Pending) (fits : low < 64)
    (above : pending.least ≤ low + 128) (below : low + 128 ≤ pending.greatest) :
    pending.admits (UInt8.ofNat (low + 128)) = true := by
  rw [admits, toNat_tail fits, Bool.and_eq_true]
  exact ⟨decide_eq_true above, decide_eq_true below⟩

theorem Pending.push_tail (pending : Pending) (fits : low < 64) :
    pending.push (UInt8.ofNat (low + 128)) = pending.code * 64 + low := by
  rw [push, toNat_tail fits]
  omega

theorem decodeFrom_last (fits : low < 64) (above : least ≤ low + 128)
    (below : low + 128 ≤ greatest) :
    decodeFrom (some ⟨code, 1, least, greatest⟩) (UInt8.ofNat (low + 128) :: rest) =
      Char.ofNat (code * 64 + low) :: decodeFrom none rest := by
  rw [decodeFrom, if_pos (Pending.admits_tail _ fits above below), if_pos rfl,
    Pending.push_tail _ fits]

theorem decodeFrom_more (fits : low < 64) (above : least ≤ low + 128)
    (below : low + 128 ≤ greatest) :
    decodeFrom (some ⟨code, owed + 2, least, greatest⟩) (UInt8.ofNat (low + 128) :: rest) =
      decodeFrom (some ⟨code * 64 + low, owed + 1, 0x80, 0xBF⟩) rest := by
  have unfinished : owed + 2 ≠ 1 := by omega
  rw [decodeFrom, if_pos (Pending.admits_tail _ fits above below), if_neg unfinished,
    Pending.push_tail _ fits]
  rfl

theorem lead_of_one : ∀ high ∈ List.range 128,
    lead (UInt8.ofNat high) = .complete (Char.ofNat high) := by decide +kernel

theorem lead_of_two : ∀ high ∈ List.range' 2 30,
    lead (UInt8.ofNat (high + 192)) = .begun ⟨high, 1, 0x80, 0xBF⟩ := by decide

theorem lead_of_three : ∀ high ∈ List.range 16, lead (UInt8.ofNat (high + 224)) =
    .begun ⟨high, 2, if high = 0 then 0xA0 else 0x80, if high = 13 then 0x9F else 0xBF⟩ := by
  decide

theorem lead_of_four : ∀ high ∈ List.range 5, lead (UInt8.ofNat (high + 240)) =
    .begun ⟨high, 3, if high = 0 then 0x90 else 0x80, if high = 4 then 0x8F else 0xBF⟩ := by
  decide

theorem decodeFrom_begun {byte : UInt8} {pending : Pending} (begun : lead byte = .begun pending) :
    decodeFrom none (byte :: rest) = decodeFrom (some pending) rest := by
  rw [decodeFrom, begun]

/-- No character is a surrogate, which is why the second byte is always one that can follow. -/
theorem decodeFrom_utf8EncodeChar (c : Char) (rest : List UInt8) :
    decodeFrom none (String.utf8EncodeChar c ++ rest) = c :: decodeFrom none rest := by
  have valid : c.toNat < 0xD800 ∨ 0xDFFF < c.toNat ∧ c.toNat < 0x110000 := c.valid
  have read {number : Nat} (same : number = c.toNat) : Char.ofNat number = c := by
    rw [same, Char.ofNat_toNat]
  unfold String.utf8EncodeChar
  change decodeFrom none ((if c.toNat ≤ 127 then [UInt8.ofNat c.toNat]
    else if c.toNat ≤ 2047 then
      [UInt8.ofNat (c.toNat / 64 % 32 + 192), UInt8.ofNat (c.toNat % 64 + 128)]
    else if c.toNat ≤ 65535 then
      [UInt8.ofNat (c.toNat / 4096 % 16 + 224), UInt8.ofNat (c.toNat / 64 % 64 + 128),
        UInt8.ofNat (c.toNat % 64 + 128)]
    else
      [UInt8.ofNat (c.toNat / 262144 % 8 + 240), UInt8.ofNat (c.toNat / 4096 % 64 + 128),
        UInt8.ofNat (c.toNat / 64 % 64 + 128), UInt8.ofNat (c.toNat % 64 + 128)]) ++ rest) = _
  generalize c.toNat = v at *
  split
  · rename_i one
    have begun := lead_of_one v (List.mem_range.mpr (by omega))
    simp only [List.cons_append, List.nil_append, decodeFrom, begun, read rfl]
  · split
    · rename_i two
      have begun := lead_of_two (v / 64 % 32) (List.mem_range'_1.mpr (by omega))
      simp only [List.cons_append, List.nil_append]
      rw [decodeFrom_begun begun, decodeFrom_last (by omega) (by omega) (by omega),
        read (by omega)]
    · split
      · rename_i three
        have begun := lead_of_three (v / 4096 % 16) (List.mem_range.mpr (by omega))
        simp only [List.cons_append, List.nil_append]
        rw [decodeFrom_begun begun,
          decodeFrom_more (by omega) (by split <;> omega) (by split <;> omega),
          decodeFrom_last (by omega) (by omega) (by omega), read (by omega)]
      · have begun := lead_of_four (v / 262144 % 8) (List.mem_range.mpr (by omega))
        simp only [List.cons_append, List.nil_append]
        rw [decodeFrom_begun begun,
          decodeFrom_more (by omega) (by split <;> omega) (by split <;> omega),
          decodeFrom_more (by omega) (by omega) (by omega),
          decodeFrom_last (by omega) (by omega) (by omega), read (by omega)]

@[simp] theorem decode_encode (text : List Char) : decode (encode text) = text := by
  unfold decode encode
  induction text with
  | nil => rfl
  | cons c rest ih => rw [List.flatMap_cons, decodeFrom_utf8EncodeChar, ih]

theorem lead_of_ascii {byte : UInt8} (ascii : byte.toNat < 128) :
    lead byte = .complete (Char.ofNat byte.toNat) := by
  have low : byte.toNat ≤ 0x7F := by omega
  unfold lead
  dsimp only
  rw [if_pos low]

theorem least_of_begun {byte : UInt8} {pending : Pending} (begun : lead byte = .begun pending) :
    128 ≤ pending.least := by
  unfold lead at begun
  dsimp only at begun
  repeat' split at begun
  all_goals simp only [Lead.begun.injEq, reduceCtorEq] at begun
  all_goals subst begun
  all_goals exact Nat.le_of_ble_eq_true rfl

/-- A byte that does not go on with a character is read as if nothing had come before it. -/
theorem decodeFrom_of_refused {byte : UInt8} {pending : Pending}
    (refused : ¬pending.admits byte = true) :
    decodeFrom (some pending) (byte :: rest) = replacement :: decodeFrom none (byte :: rest) := by
  simp only [decodeFrom, if_neg refused]
  split <;> rfl

theorem decodeFrom_ascii {byte : UInt8} (ascii : byte.toNat < 128) :
    decodeFrom none (byte :: rest) = Char.ofNat byte.toNat :: decodeFrom none rest := by
  rw [decodeFrom, lead_of_ascii ascii]

/-- No character goes on with an ASCII byte, so reading begins anew there. -/
theorem decodeFrom_append_ascii {pending : Option Pending} {byte : UInt8}
    (ascii : byte.toNat < 128) (narrow : ∀ begun ∈ pending, 128 ≤ begun.least)
    (first second : List UInt8) : decodeFrom pending (first ++ byte :: second) =
      decodeFrom pending first ++ Char.ofNat byte.toNat :: decodeFrom none second := by
  induction first generalizing pending with
  | nil =>
      cases pending with
      | none => exact decodeFrom_ascii ascii
      | some begun =>
          have refused : ¬begun.admits byte = true := by
            have least := narrow begun rfl
            simp only [Pending.admits, Bool.and_eq_true, decide_eq_true_eq]
            omega
          rw [List.nil_append, decodeFrom_of_refused refused, decodeFrom_ascii ascii]
          rfl
  | cons other rest ih =>
      have between : decodeFrom none (other :: rest ++ byte :: second) =
          decodeFrom none (other :: rest) ++ Char.ofNat byte.toNat :: decodeFrom none second := by
        rw [List.cons_append, decodeFrom, decodeFrom]
        cases led : lead other with
        | complete c => exact congrArg (c :: ·) (ih nofun)
        | stray => exact congrArg (replacement :: ·) (ih nofun)
        | begun next =>
            refine ih ?_
            rintro _ ⟨⟩
            exact least_of_begun led
      cases pending with
      | none => exact between
      | some begun =>
          by_cases admitted : begun.admits other = true
          · rw [List.cons_append, decodeFrom, decodeFrom, if_pos admitted, if_pos admitted]
            split
            · exact congrArg (Char.ofNat (begun.push other) :: ·) (ih nofun)
            · refine ih ?_
              rintro _ ⟨⟩
              exact Nat.le_refl _
          · rw [decodeFrom_of_refused admitted, List.cons_append, decodeFrom_of_refused admitted,
              ← List.cons_append, between]
            rfl

theorem decode_append_ascii {byte : UInt8} (ascii : byte.toNat < 128) (first second : List UInt8) :
    decode (first ++ byte :: second) =
      decode first ++ Char.ofNat byte.toNat :: decode second :=
  decodeFrom_append_ascii ascii (by simp) first second

theorem decodeFrom_ne_nil (pending : Option Pending) (bytes : List UInt8)
    (some : pending = none → bytes ≠ []) : decodeFrom pending bytes ≠ [] := by
  induction bytes generalizing pending with
  | nil =>
      cases pending with
      | none => exact absurd rfl (some rfl)
      | some pending => exact List.cons_ne_nil _ _
  | cons byte rest ih =>
      cases pending with
      | none =>
          rw [decodeFrom]
          split
          · exact List.cons_ne_nil _ _
          · exact ih _ nofun
          · exact List.cons_ne_nil _ _
      | some pending =>
          rw [decodeFrom]
          split
          · split
            · exact List.cons_ne_nil _ _
            · exact ih _ nofun
          · split <;> exact List.cons_ne_nil _ _

/-- Whatever the bytes are, they stand for something. -/
theorem decode_eq_nil_iff {bytes : List UInt8} : decode bytes = [] ↔ bytes = [] := by
  constructor
  · intro nothing
    by_contra some
    exact decodeFrom_ne_nil none bytes (fun _ => some) nothing
  · rintro rfl
    rfl

end LinkRouting.Text.Utf8
