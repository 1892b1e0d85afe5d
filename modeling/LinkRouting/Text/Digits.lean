namespace LinkRouting.Text

/-- The value of a hexadecimal digit in either case. -/
def digitValue? (c : Char) : Option Nat :=
  if '0' ≤ c ∧ c ≤ '9' then some (c.toNat - '0'.toNat)
  else if 'a' ≤ c ∧ c ≤ 'f' then some (c.toNat - 'a'.toNat + 10)
  else if 'A' ≤ c ∧ c ≤ 'F' then some (c.toNat - 'A'.toNat + 10)
  else none

/-- The upper case digit with a value below sixteen. -/
def digit (value : Nat) : Char :=
  if value < 10 then Char.ofNat ('0'.toNat + value) else Char.ofNat ('A'.toNat + (value - 10))

/-- The number that digits write behind those of `value`, or nothing if one of them is no digit
of `base`. -/
def numberFrom (base value : Nat) : List Char → Option Nat
  | [] => some value
  | c :: rest =>
      match digitValue? c with
      | none => none
      | some d => if d < base then numberFrom base (value * base + d) rest else none

/-- The number that digits of `base` write.  No digits write zero. -/
def number? (base : Nat) (digits : List Char) : Option Nat :=
  numberFrom base 0 digits

end LinkRouting.Text
