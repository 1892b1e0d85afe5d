import LinkRouting.Url.Ipv4

namespace LinkRouting.Url.Ipv6

/-- The pieces in their order, with nothing where `::` stands. -/
abbrev Pieces := List (Option Nat)

/-- Reads into the `room` that is left for pieces.  `gap` tells whether `::` was read. -/
def piecesFrom : (room : Nat) → (gap : Bool) → List Char → Option Pieces
  | _, _, [] => some []
  | 0, _, _ :: _ => none
  | room + 1, gap, c :: rest =>
      if c = ':' then
        if gap then none else (piecesFrom room true rest).map (none :: ·)
      else
        let digits := ((c :: rest).take 4).takeWhile fun d => (Text.digitValue? d).isSome
        match (c :: rest).drop digits.length with
        | [] => (Text.number? 16 digits).map fun value => [some value]
        | ':' :: more =>
            if digits.isEmpty || more.isEmpty then none
            else
              match Text.number? 16 digits with
              | none => none
              | some value => (piecesFrom room gap more).map (some value :: ·)
        | '.' :: _ =>
            if digits.isEmpty || room = 0 then none
            else
              match Ipv4.dotted? (c :: rest) with
              | some [a, b, c, d] => some [some (a * 256 + b), some (c * 256 + d)]
              | _ => none
        | _ => none

/-- Fills the gap, or finds all eight pieces there. -/
def fill (pieces : Pieces) : Option (List Nat) :=
  let known := pieces.filterMap id
  if known.length = pieces.length then
    if pieces.length = 8 then some known else none
  else
    some <| pieces.flatMap fun
      | some value => [value]
      | none => List.replicate (8 - known.length) 0

/-- Eight hexadecimal pieces, where `::` once stands for one or more zeros and the last two may be
written as an IPv4 address. -/
def parse? (text : List Char) : Option (List Nat) :=
  let pieces :=
    match text with
    | [] | [_] => none
    | ':' :: ':' :: rest => (piecesFrom 7 true rest).map (none :: ·)
    | ':' :: _ => none
    | _ => piecesFrom 8 false text
  pieces.bind fill

/-- The length of the run of zeros that begins at each place. -/
def zeroRuns : List Nat → List Nat
  | [] => []
  | piece :: rest =>
      let runs := zeroRuns rest
      (if piece = 0 then runs.headD 0 + 1 else 0) :: runs

def hexText (value : Nat) : List Char :=
  Nat.toDigits 16 value

/-- The shortest form: the first of the longest runs of two or more zeros becomes `::`. -/
def render (pieces : List Nat) : List Char :=
  let written (row : List Nat) := List.intercalate [':'] (row.map hexText)
  let runs := zeroRuns pieces
  let longest := runs.foldl max 0
  if longest < 2 then written pieces
  else
    let start := runs.idxOf longest
    written (pieces.take start) ++ [':', ':'] ++ written (pieces.drop (start + longest))

end LinkRouting.Url.Ipv6
