import LinkRouting.Config.Document
import LinkRouting.Text.Digits

namespace LinkRouting.Toml

/-- Digits of `base`, with single underscores between them. -/
def digits? (base : Nat) (text : List Char) : Option (List Char) :=
  let isDigit (c : Char) : Bool := (Text.digitValue? c).any (· < base)
  let groups := text.splitOn '_'
  if groups.all fun group => !group.isEmpty && group.all isDigit then some groups.flatten
  else none

def natural? (base : Nat) (text : List Char) : Option Nat :=
  (digits? base text).bind (Text.number? base)

/-- A decimal number without leading zeros. -/
def decimal? (text : List Char) : Option Nat :=
  if 1 < text.length ∧ text.head? = some '0' then none else natural? 10 text

def splitSign : List Char → Bool × List Char
  | '-' :: rest => (true, rest)
  | '+' :: rest => (false, rest)
  | text => (false, text)

def signed (negative : Bool) (size : Nat) : Int :=
  if negative then -Int.ofNat size else Int.ofNat size

/-- An integer of 64 bits.  Those in other bases than ten have no sign. -/
def integer? (text : List Char) : Option Int :=
  let value : Option Int :=
    match text with
    | '0' :: 'x' :: digits => (natural? 16 digits).map Int.ofNat
    | '0' :: 'o' :: digits => (natural? 8 digits).map Int.ofNat
    | '0' :: 'b' :: digits => (natural? 2 digits).map Int.ofNat
    | _ =>
        let (negative, digits) := splitSign text
        (decimal? digits).map (signed negative)
  value.filter fun value => -0x8000000000000000 ≤ value ∧ value < 0x8000000000000000

/-- The exponent of a number, behind its letter. -/
def exponent? (text : List Char) : Option Int :=
  let (negative, digits) := splitSign text
  (natural? 10 digits).map (signed negative)

/-- The least number that is nearer to infinity than to the finite numbers of 64 bits. -/
def infiniteFrom : Nat :=
  ((1 <<< 54) - 1) <<< 970

/-- Whether `mantissa`, with as many zeros behind it as `exponent` says, is infinite when it is
written in 64 bits.  Only where it has 309 digits has this to be computed. -/
def overflows (mantissa : Nat) (exponent : Int) : Bool :=
  let size := (Nat.toDigits 10 mantissa).length + exponent
  mantissa != 0 &&
    (309 < size ||
      (size == 309 &&
        decide (infiniteFrom * Nat.pow 10 (-exponent).toNat ≤
          mantissa * Nat.pow 10 exponent.toNat)))

/-- Whether a text is a number with a fraction or an exponent, or one that is not finite.  Finite
ones must not be too great, but may be too small. -/
def isReal (text : List Char) : Bool :=
  let (negative, unsigned) := splitSign text
  let mantissa := unsigned.takeWhile fun c => c ≠ 'e' && c ≠ 'E'
  let exponent := unsigned.drop mantissa.length
  let whole := mantissa.takeWhile (· ≠ '.')
  let fraction := mantissa.drop whole.length
  let digits := if fraction.isEmpty then some [] else digits? 10 (fraction.drop 1)
  let shift := if exponent.isEmpty then some 0 else exponent? (exponent.drop 1)
  unsigned = "inf".toList || unsigned = "nan".toList ||
    match decimal? whole, digits, shift with
    | some value, some digits, some shift =>
        !(fraction.isEmpty && exponent.isEmpty) &&
          (negative ||
            (Text.numberFrom 10 value digits).any fun value =>
              !overflows value (shift - digits.length))
    | _, _, _ => false

/-- A number of exactly `count` digits within bounds. -/
def fixed? (count least greatest : Nat) (text : List Char) : Option Nat :=
  if text.length = count ∧ text.all Char.isDigit then
    (Text.number? 10 text).filter fun value => least ≤ value ∧ value ≤ greatest
  else none

def daysIn (year month : Nat) : Nat :=
  if month = 2 then
    if year % 4 = 0 ∧ (year % 100 ≠ 0 ∨ year % 400 = 0) then 29 else 28
  else if month ∈ [4, 6, 9, 11] then 30
  else 31

def isDate (text : List Char) : Bool :=
  match text.splitOn '-' with
  | [year, month, day] =>
      match fixed? 4 0 9999 year, fixed? 2 1 12 month with
      | some year, some month => (fixed? 2 1 (daysIn year month) day).isSome
      | _, _ => false
  | _ => false

def isTime (text : List Char) : Bool :=
  match text.splitOn ':' with
  | [hour, minute, second] =>
      let whole := second.takeWhile (· ≠ '.')
      let fraction := second.drop whole.length
      (fixed? 2 0 23 hour).isSome && (fixed? 2 0 59 minute).isSome &&
        (fixed? 2 0 60 whole).isSome &&
        (fraction.isEmpty || (1 < fraction.length && (fraction.drop 1).all Char.isDigit))
  | _ => false

/-- Whether a text is the offset of a time zone, behind its sign. -/
def isOffset (text : List Char) : Bool :=
  match text.splitOn ':' with
  | [hour, minute] => (fixed? 2 0 23 hour).isSome && (fixed? 2 0 59 minute).isSome
  | _ => false

/-- Whether a text is a time of day with or without an offset. -/
def isZonedTime (text : List Char) : Bool :=
  let clock := text.takeWhile fun c => c.isDigit || c == ':' || c == '.'
  match text.drop clock.length with
  | [] | ['Z'] | ['z'] => isTime clock
  | sign :: offset => (sign == '+' || sign == '-') && isTime clock && isOffset offset

/-- Whether a text is a date, a time or both. -/
def isMoment (text : List Char) : Bool :=
  isDate text || isTime text ||
    (isDate (text.take 10) &&
      (text.drop 10).head?.any (fun c => c == 'T' || c == 't' || c == ' ') &&
      isZonedTime (text.drop 11))

/-- The value that a word without quotes writes. -/
def scalar (text : List Char) : Option Document :=
  if text = "true".toList then some (.boolean true)
  else if text = "false".toList then some (.boolean false)
  else
    match integer? text with
    | some value => some (.integer value)
    | none =>
        if isReal text then some .real
        else if isMoment text then some .moment
        else none

def isWordChar (c : Char) : Bool :=
  c.isAlphanum || c ∈ ['+', '-', '_', '.', ':']

/-- The word at the beginning of a text, and what follows.  A date and a time may have a space
between them. -/
def word (text : List Char) : List Char × List Char :=
  let first := text.takeWhile isWordChar
  let rest := text.drop first.length
  match rest with
  | ' ' :: more =>
      let second := more.takeWhile isWordChar
      if isDate first && isZonedTime second then
        (first ++ ' ' :: second, more.drop second.length)
      else (first, rest)
  | _ => (first, rest)

end LinkRouting.Toml
