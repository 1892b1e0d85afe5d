namespace LinkRouting.Text.Utf8

/-! Reading bytes as UTF-8 without ever failing.  The reader is a machine that takes one
byte at a time.  Where the bytes are no UTF-8, each longest piece that some character could
have begun with, or else a single byte, becomes one replacement character.
-/

/-- What stands for bytes that are no character. -/
def replacement : Char := '\uFFFD'

/-- A character whose first bytes were read: its number so far, how many bytes are owed, and
the least and the greatest value the next of them may have. -/
structure Pending where
  code : Nat
  owed : Nat
  least : Nat
  greatest : Nat
deriving DecidableEq, Repr

/-- What a byte between characters begins. -/
inductive Lead where
  | complete (c : Char)
  | begun (pending : Pending)
  | stray
deriving DecidableEq, Repr

/-- The second byte is narrowed after `E0` and `F0`, where a shorter form exists, after `ED`,
where surrogates would follow, and after `F4`, where Unicode ends. -/
def lead (byte : UInt8) : Lead :=
  let b := byte.toNat
  if b ≤ 0x7F then .complete (Char.ofNat b)
  else if 0xC2 ≤ b ∧ b ≤ 0xDF then .begun ⟨b - 0xC0, 1, 0x80, 0xBF⟩
  else if b = 0xE0 then .begun ⟨0, 2, 0xA0, 0xBF⟩
  else if b = 0xED then .begun ⟨0xD, 2, 0x80, 0x9F⟩
  else if 0xE1 ≤ b ∧ b ≤ 0xEF then .begun ⟨b - 0xE0, 2, 0x80, 0xBF⟩
  else if b = 0xF0 then .begun ⟨0, 3, 0x90, 0xBF⟩
  else if 0xF1 ≤ b ∧ b ≤ 0xF3 then .begun ⟨b - 0xF0, 3, 0x80, 0xBF⟩
  else if b = 0xF4 then .begun ⟨4, 3, 0x80, 0x8F⟩
  else .stray

def Pending.admits (pending : Pending) (byte : UInt8) : Bool :=
  pending.least ≤ byte.toNat && byte.toNat ≤ pending.greatest

/-- The number after one more byte, which gives its low six bits. -/
def Pending.push (pending : Pending) (byte : UInt8) : Nat :=
  pending.code * 64 + byte.toNat % 64

/-- Reads from the middle of a character, or between characters when nothing is pending. -/
def decodeFrom : Option Pending → List UInt8 → List Char
  | none, [] => []
  | some _, [] => [replacement]
  | none, byte :: rest =>
      match lead byte with
      | .complete c => c :: decodeFrom none rest
      | .begun pending => decodeFrom (some pending) rest
      | .stray => replacement :: decodeFrom none rest
  | some pending, byte :: rest =>
      if pending.admits byte then
        if pending.owed = 1 then Char.ofNat (pending.push byte) :: decodeFrom none rest
        else decodeFrom (some ⟨pending.push byte, pending.owed - 1, 0x80, 0xBF⟩) rest
      else
        match lead byte with
        | .complete c => replacement :: c :: decodeFrom none rest
        | .begun next => replacement :: decodeFrom (some next) rest
        | .stray => replacement :: replacement :: decodeFrom none rest

def decode (bytes : List UInt8) : List Char :=
  decodeFrom none bytes

def encode (text : List Char) : List UInt8 :=
  text.flatMap String.utf8EncodeChar

end LinkRouting.Text.Utf8
