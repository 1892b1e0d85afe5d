namespace LinkRouting.Text

/-- The code points with the property `White_Space`, as inclusive ranges in ascending order. -/
def blankRanges : List (Nat × Nat) :=
  [(0x09, 0x0D), (0x20, 0x20), (0x85, 0x85), (0xA0, 0xA0), (0x1680, 0x1680),
    (0x2000, 0x200A), (0x2028, 0x2029), (0x202F, 0x202F), (0x205F, 0x205F), (0x3000, 0x3000)]

def isBlank (c : Char) : Bool :=
  blankRanges.any fun range => range.1 ≤ c.toNat && c.toNat ≤ range.2

def isBreak (c : Char) : Bool :=
  c == '\t' || c == '\n' || c == '\r'

def withoutBreaks (text : List Char) : List Char :=
  text.filter fun c => !isBreak c

/-- Drops from both ends what satisfies `drop`. -/
def trimBoth (drop : Char → Bool) (text : List Char) : List Char :=
  ((text.dropWhile drop).reverse.dropWhile drop).reverse

/-- `text` without the blank characters at its ends. -/
def trim (text : String) : String :=
  String.ofList (trimBoth isBlank text.toList)

/-- Nothing but blank characters, possibly none. -/
def blank (text : String) : Bool :=
  text.toList.all isBlank

end LinkRouting.Text
