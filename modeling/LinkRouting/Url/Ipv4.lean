import LinkRouting.Text.Digits

namespace LinkRouting.Url.Ipv4

/-- One of the numbers of an address.  A bare `0x` is zero. -/
def part? : List Char → Option Nat
  | [] => none
  | ['0'] => some 0
  | '0' :: 'x' :: digits | '0' :: 'X' :: digits => Text.number? 16 digits
  | '0' :: digits => Text.number? 8 digits
  | digits => Text.number? 10 digits

/-- The pieces between dots, of which an empty one at the end does not count. -/
def parts (host : List Char) : List (List Char) :=
  let pieces := host.splitOn '.'
  if pieces.getLast? = some [] then pieces.dropLast else pieces

/-- Whether the last piece is a number, so that the host has to be an address. -/
def endsInNumber (host : List Char) : Bool :=
  match (parts host).getLast? with
  | none => false
  | some last => (!last.isEmpty && last.all Char.isDigit) || (part? last).isSome

/-- Puts the bytes of `front` before a `last` number that fills the rest of four bytes. -/
def assemble (front : List Nat) (last : Nat) : Option Nat :=
  let room := 8 * (4 - front.length)
  if front.length ≤ 3 ∧ last < 1 <<< room ∧ front.all (· < 256) then
    some (front.foldl (fun value byte => value * 256 + byte) 0 <<< room + last)
  else none

/-- One to four numbers, of which the last fills all bytes that the others leave. -/
def parse? (host : List Char) : Option Nat := do
  let numbers ← (parts host).mapM part?
  let last ← numbers.getLast?
  assemble numbers.dropLast last

def render (address : Nat) : List Char :=
  let byte (shift : Nat) : List Char := (toString (address >>> shift % 256)).toList
  List.intercalate ['.'] [byte 24, byte 16, byte 8, byte 0]

/-- Four decimal numbers below 256 without leading zeros. -/
def dotted? (text : List Char) : Option (List Nat) :=
  let byte? (digits : List Char) : Option Nat :=
    if digits.isEmpty || (digits.length != 1 && digits.head? == some '0') then none
    else (Text.number? 10 digits).filter (· < 256)
  match (text.splitOn '.').mapM byte? with
  | some [a, b, c, d] => some [a, b, c, d]
  | _ => none

end LinkRouting.Url.Ipv4
