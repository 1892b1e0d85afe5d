import LinkRouting.Text.Digits
import LinkRouting.Text.Utf8

namespace LinkRouting.Text.Percent

/-- The bytes that `text` spells.  A `%` without two hexadecimal digits stands for itself. -/
def bytes : List Char → List UInt8
  | [] => []
  | '%' :: high :: low :: rest =>
      match digitValue? high, digitValue? low with
      | some h, some l => UInt8.ofNat (h * 16 + l) :: bytes rest
      | _, _ => '%'.toUInt8 :: bytes (high :: low :: rest)
  | c :: rest => String.utf8EncodeChar c ++ bytes rest

/-- The text whose bytes `text` spells. -/
def decode (text : List Char) : List Char :=
  Utf8.decode (bytes text)

def escapeByte (byte : UInt8) : List Char :=
  ['%', digit (byte.toNat / 16), digit (byte.toNat % 16)]

/-- Writes the characters that satisfy `keep` as they are and the bytes of all others as
escapes. -/
def encode (keep : Char → Bool) (text : List Char) : List Char :=
  text.flatMap fun c =>
    if keep c then [c] else (String.utf8EncodeChar c).flatMap escapeByte

end LinkRouting.Text.Percent
