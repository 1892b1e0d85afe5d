import LinkRouting.Proofs.Text.Chars
import LinkRouting.Proofs.Text.Percent
import LinkRouting.Request.Query

namespace LinkRouting

/-! All the ways to spell a text with escapes, which are read as that text again.  Plus signs become
spaces before escapes are undone, so one that is escaped stays, and no escape holds one.
-/

namespace Text

/-- The digit stands for a value below sixteen, in either case. -/
def Hexadecimal (value : Nat) (digit : Char) : Prop :=
  "0123456789abcdef".toList.idxOf? digit.toLower = some value

/-- Two hexadecimal digits come first, so a percent sign before them makes an escape. -/
def Escapes (text : List Char) : Prop :=
  ∃ high low rest first second, text = high :: low :: rest ∧
    Hexadecimal first high ∧ Hexadecimal second low

/-- Bytes, each written as an escape. -/
inductive Escaped : List UInt8 → List Char → Prop
  | nil : Escaped [] []
  | cons {byte bytes high low escapes} (first : Hexadecimal (byte.toNat / 16) high)
      (second : Hexadecimal (byte.toNat % 16) low) (others : Escaped bytes escapes) :
      Escaped (byte :: bytes) ('%' :: high :: low :: escapes)

/-- A text, and a way to spell it.  Each character stands for itself or is written as the escapes of
its bytes.  Percent signs are escaped, and if `plus` is set so are plus signs, since they
spell spaces then. -/
inductive Spelled (plus : Bool) : List Char → List Char → Prop
  | nil : Spelled plus [] []
  | kept {c text spelling} (unescaped : c ≠ '%') (unspaced : plus = true → c ≠ '+')
      (others : Spelled plus text spelling) : Spelled plus (c :: text) (c :: spelling)
  | escaped {c text escapes spelling} (escaped : Escaped (String.utf8EncodeChar c) escapes)
      (others : Spelled plus text spelling) : Spelled plus (c :: text) (escapes ++ spelling)
  | space {text spelling} (spaced : plus = true) (others : Spelled plus text spelling) :
      Spelled plus (' ' :: text) ('+' :: spelling)

/-- What a character is read as before escapes are undone. -/
def unplus (plus : Bool) (c : Char) : Char :=
  if plus = true ∧ c = '+' then ' ' else c

section Digits

variable {c high low : Char} {value : Nat} {plus : Bool} {text rest : List Char}

theorem digitValue?_eq_idxOf? (c : Char) :
    digitValue? c = "0123456789abcdef".toList.idxOf? c.toLower := by
  by_cases below : c.toNat < 128
  · exact of_below (P := fun c => digitValue? c = "0123456789abcdef".toList.idxOf? c.toLower)
      (by decide +kernel) below
  · have decimal : ¬('0' ≤ c ∧ c ≤ '9') := by
      rintro ⟨_, most⟩
      have bound : c.toNat ≤ 57 := most
      omega
    have lower : ¬('a' ≤ c ∧ c ≤ 'f') := by
      rintro ⟨_, most⟩
      have bound : c.toNat ≤ 102 := most
      omega
    have upper : ¬('A' ≤ c ∧ c ≤ 'F') := by
      rintro ⟨_, most⟩
      have bound : c.toNat ≤ 70 := most
      omega
    have same : c.toLower = c := by
      rcases toLower_cases c with same | ⟨_, most, _⟩
      · exact same
      · omega
    have absent : c ∉ "0123456789abcdef".toList := by
      intro member
      have bound : ("0123456789abcdef".toList.all fun digit => digit.toNat < 128) = true := by
        decide
      exact below (of_decide_eq_true (List.all_eq_true.mp bound c member))
    rw [digitValue?, if_neg decimal, if_neg lower, if_neg upper, same,
      List.idxOf?_eq_none_iff.mpr absent]

theorem digitValue?_eq_some_iff : digitValue? c = some value ↔ Hexadecimal value c := by
  rw [digitValue?_eq_idxOf?, Hexadecimal]

theorem unplus_of_hexadecimal (digit : Hexadecimal value c) : unplus plus c = c := by
  refine if_neg ?_
  rintro ⟨_, rfl⟩
  cases digit

theorem unplus_eq_of_hexadecimal (digit : Hexadecimal value (unplus plus c)) :
    unplus plus c = c := by
  unfold unplus at digit ⊢
  split at digit
  · cases digit
  · rename_i other
    exact if_neg other

theorem escapes_map_unplus : Escapes (text.map (unplus plus)) ↔ Escapes text := by
  constructor
  · rintro ⟨high, low, rest, first, second, split, upper, lower⟩
    obtain ⟨c, others, rfl, rfl, next⟩ := List.map_eq_cons_iff.mp split
    obtain ⟨d, behind, rfl, rfl, _⟩ := List.map_eq_cons_iff.mp next
    rw [unplus_eq_of_hexadecimal upper] at upper
    rw [unplus_eq_of_hexadecimal lower] at lower
    exact ⟨c, d, behind, first, second, rfl, upper, lower⟩
  · rintro ⟨high, low, rest, first, second, rfl, upper, lower⟩
    exact ⟨high, low, rest.map (unplus plus), first, second,
      by rw [List.map_cons, List.map_cons, unplus_of_hexadecimal upper,
        unplus_of_hexadecimal lower], upper, lower⟩

end Digits

namespace Percent

variable {text spelling escapes rest : List Char} {written : List UInt8} {plus : Bool}

theorem bytes_stray (stray : ¬Escapes rest) :
    bytes ('%' :: rest) = '%'.toUInt8 :: bytes rest := by
  match rest with
  | [] => rfl
  | [c] => rfl
  | high :: low :: rest =>
      rw [bytes]
      split
      · rename_i first second upper lower
        exact absurd ⟨high, low, rest, first, second, rfl, digitValue?_eq_some_iff.mp upper,
          digitValue?_eq_some_iff.mp lower⟩ stray
      · rfl

theorem bytes_escaped (escaped : Escaped written escapes) (rest : List Char) :
    bytes (escapes ++ rest) = written ++ bytes rest := by
  induction escaped with
  | nil => rfl
  | @cons byte bytes high low escapes first second others ih =>
      have upper := digitValue?_eq_some_iff.mpr first
      have lower := digitValue?_eq_some_iff.mpr second
      have value : byte.toNat / 16 * 16 + byte.toNat % 16 = byte.toNat := by omega
      simp only [List.cons_append, Percent.bytes, upper, lower, value, UInt8.ofNat_toNat, ih]

/-- A percent sign is no digit, so no escape goes over one. -/
theorem bytes_append_percent (before behind : List Char) :
    bytes (before ++ '%' :: behind) = bytes before ++ bytes ('%' :: behind) := by
  have percent (value : Nat) : ¬Hexadecimal value '%' := nofun
  fun_induction bytes before with
  | case1 => rfl
  | case2 high low rest first second upper lower ih =>
      simp only [List.cons_append, bytes, upper, lower, ih]
  | case3 high low rest unread ih =>
      have stray : ¬Escapes (high :: low :: rest ++ '%' :: behind) := by
        rintro ⟨_, _, _, first, second, ⟨⟩, upper, lower⟩
        exact unread first second (digitValue?_eq_some_iff.mpr upper)
          (digitValue?_eq_some_iff.mpr lower)
      have step := bytes_stray stray
      rw [ih] at step
      exact step
  | case4 c rest short ih =>
      by_cases sign : c = '%'
      · subst sign
        have stray : ¬Escapes (rest ++ '%' :: behind) := by
          intro escape
          obtain ⟨high, low, others, first, second, split, upper, lower⟩ := escape
          cases rest with
          | nil =>
              cases split
              exact percent first upper
          | cons c rest =>
              cases rest with
              | nil =>
                  cases split
                  exact percent second lower
              | cons d rest => exact short c d rest rfl rfl
        have step := bytes_stray stray
        rw [ih] at step
        exact step
      · rw [List.cons_append, bytes_cons sign, ih, List.append_assoc]

/-- An ASCII character that is escaped stands apart from what is around it. -/
theorem decode_append_escape {byte : UInt8} (ascii : byte.toNat < 128)
    (escaped : Escaped [byte] ('%' :: escapes)) (before behind : List Char) :
    decode (before ++ '%' :: (escapes ++ behind)) =
      decode before ++ Char.ofNat byte.toNat :: decode behind := by
  have read : bytes ('%' :: (escapes ++ behind)) = byte :: bytes behind :=
    bytes_escaped escaped behind
  rw [decode, bytes_append_percent, read, Utf8.decode_append_ascii ascii]
  rfl

theorem decode_append_stray {behind : List Char} (stray : ¬Escapes behind) (before : List Char) :
    decode (before ++ '%' :: behind) = decode before ++ '%' :: decode behind := by
  rw [decode, bytes_append_percent, bytes_stray stray, Utf8.decode_append_ascii (by decide)]
  rfl

theorem map_unplus_escaped (escaped : Escaped written escapes) :
    escapes.map (unplus plus) = escapes := by
  induction escaped with
  | nil => rfl
  | cons first second others ih =>
      have sign : unplus plus '%' = '%' := if_neg fun spaced => absurd spaced.2 (by decide)
      rw [List.map_cons, List.map_cons, List.map_cons, sign, unplus_of_hexadecimal first,
        unplus_of_hexadecimal second, ih]

theorem bytes_spelled (spelled : Spelled plus text spelling) :
    bytes (spelling.map (unplus plus)) = Utf8.encode text := by
  induction spelled with
  | nil => rfl
  | @kept c text spelling unescaped unspaced others ih =>
      have same : unplus plus c = c := if_neg fun spaced => unspaced spaced.1 spaced.2
      rw [List.map_cons, same, bytes_cons unescaped, ih]
      rfl
  | escaped escaped others ih =>
      rw [List.map_append, map_unplus_escaped escaped, bytes_escaped escaped, ih]
      rfl
  | @space text spelling spaced others ih =>
      have blank : unplus plus '+' = ' ' := if_pos ⟨spaced, rfl⟩
      rw [List.map_cons, blank, bytes_cons (by decide), ih]
      rfl

end Percent

theorem Spelled.self {plus : Bool} {text : List Char} (unescaped : '%' ∉ text)
    (unspaced : plus = true → '+' ∉ text) : Spelled plus text text := by
  induction text with
  | nil => exact .nil
  | cons c rest ih =>
      refine .kept ?_ (fun spaced => ?_) (ih ?_ fun spaced => ?_)
      · rintro rfl
        exact unescaped List.mem_cons_self
      · rintro rfl
        exact unspaced spaced List.mem_cons_self
      · exact fun member => unescaped (List.mem_cons_of_mem c member)
      · exact fun member => unspaced spaced (List.mem_cons_of_mem c member)

end Text

open Text

theorem toList_decodeComponent (value : String) (plus : Bool) :
    (decodeComponent value plus).toList = Percent.decode (value.toList.map (unplus plus)) := by
  rw [decodeComponent, String.toList_ofList]
  cases plus with
  | true =>
      have same : unplus true = fun c => if c = '+' then ' ' else c := by
        funext c
        simp [unplus]
      rw [same]
      rfl
  | false =>
      have same : unplus false = id := by
        funext c
        simp [unplus]
      rw [same, List.map_id]
      rfl

theorem decodeComponent_of_spelled {text value : String} {plus : Bool}
    (spelled : Spelled plus text.toList value.toList) : decodeComponent value plus = text := by
  refine String.toList_injective ?_
  rw [toList_decodeComponent, Percent.decode, Percent.bytes_spelled spelled, Utf8.decode_encode]

theorem decodeComponent_append_escape {escapes : List Char} {byte : UInt8}
    (ascii : byte.toNat < 128) (escaped : Escaped [byte] ('%' :: escapes)) (before behind : String)
    (plus : Bool) : decodeComponent (before ++ String.ofList ('%' :: escapes) ++ behind) plus =
      decodeComponent before plus ++ String.singleton (Char.ofNat byte.toNat) ++
        decodeComponent behind plus := by
  refine String.toList_injective ?_
  simp only [toList_decodeComponent, String.toList_append, String.toList_ofList, List.map_append,
    Percent.map_unplus_escaped escaped, String.toList_singleton, List.append_assoc]
  exact Percent.decode_append_escape ascii escaped _ _

theorem decodeComponent_append_stray {behind : String} (stray : ¬Escapes behind.toList)
    (before : String) (plus : Bool) : decodeComponent (before ++ "%" ++ behind) plus =
      decodeComponent before plus ++ "%" ++ decodeComponent behind plus := by
  have sign : "%".toList.map (unplus plus) = ['%'] :=
    congrArg (· :: []) (if_neg fun spaced => absurd spaced.2 (by decide))
  have apart : ¬Escapes (behind.toList.map (unplus plus)) := mt escapes_map_unplus.mp stray
  refine String.toList_injective ?_
  simp only [toList_decodeComponent, String.toList_append, List.map_append, sign,
    List.append_assoc]
  exact Percent.decode_append_stray apart _

/-- Every spelling of a text is read as that text.  So what holds no sign that is decoded is read as
it stands, an escaped plus sign is read as one wherever it stands, and so is a percent sign
that begins no escape. -/
theorem decodeComponent_spellings (plus : Bool) :
    (∀ text value : String, Spelled plus text.toList value.toList →
      decodeComponent value plus = text) ∧
    (∀ value : String, '%' ∉ value.toList → (plus = true → '+' ∉ value.toList) →
      decodeComponent value plus = value) ∧
    (∀ before behind : String, ∀ sign ∈ ["%2B", "%2b"],
      decodeComponent (before ++ sign ++ behind) plus =
        decodeComponent before plus ++ "+" ++ decodeComponent behind plus) ∧
    ∀ before behind : String, ¬Escapes behind.toList →
      decodeComponent (before ++ "%" ++ behind) plus =
        decodeComponent before plus ++ "%" ++ decodeComponent behind plus := by
  refine ⟨fun text value => decodeComponent_of_spelled, fun value unescaped unspaced => ?_, ?_, ?_⟩
  · exact decodeComponent_of_spelled (.self unescaped unspaced)
  · intro before behind sign member
    rcases List.mem_pair.mp member with rfl | rfl
    · have escaped : Escaped [0x2B] ['%', '2', 'B'] := .cons rfl rfl .nil
      exact decodeComponent_append_escape (by decide) escaped before behind plus
    · have escaped : Escaped [0x2B] ['%', '2', 'b'] := .cons rfl rfl .nil
      exact decodeComponent_append_escape (by decide) escaped before behind plus
  · intro before behind stray
    exact decodeComponent_append_stray stray before plus

example : decodeComponent "caf%c3%A9+%2B%" true = "café +%" := by decide

end LinkRouting
