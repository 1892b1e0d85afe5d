import LinkRouting.Text.Blank
import LinkRouting.Url.Escaping

namespace LinkRouting.Url

/-- A letter and a colon, or a bar in its place. -/
def isDriveLetter : List Char → Bool
  | [letter, mark] => letter.isAlpha && (mark == ':' || mark == '|')
  | _ => false

/-- A single dot, which may be escaped. -/
def isSingleDot (segment : List Char) : Bool :=
  segment.map Char.toLower ∈ [".", "%2e"].map String.toList

/-- Two dots, each of which may be escaped. -/
def isDoubleDot (segment : List Char) : Bool :=
  segment.map Char.toLower ∈ ["..", "%2e.", ".%2e", "%2e%2e"].map String.toList

/-- Takes the last segment back, but never a drive letter. -/
def shorten (segments : List (List Char)) : List (List Char) :=
  match segments.getLast? with
  | none => []
  | some last => if isDriveLetter last then segments else segments.dropLast

/-- The segment that `piece` writes between two slashes. -/
def segmentOf (piece : List Char) : List Char :=
  encodePath (Text.withoutBreaks piece)

def isDots (piece : List Char) : Bool :=
  isSingleDot (segmentOf piece) || isDoubleDot (segmentOf piece)

/-- A letter and a colon with a break right behind them, and the segment behind the break.  Only
the colon and the break have to stand side by side. -/
def splitDrive? (piece : List Char) : Option (List Char × List Char) :=
  match piece.dropWhile Text.isBreak with
  | letter :: rest =>
      match rest.dropWhile Text.isBreak with
      | ':' :: mark :: rest =>
          let behind := segmentOf rest
          if letter.isAlpha && Text.isBreak mark && !behind.isEmpty then
            some ([letter, ':'], behind)
          else none
      | _ => none
  | [] => none

/-- A path, as far as it has been read. -/
structure Trail where
  segments : List (List Char)
  /-- Whether the path says on which drive a file is, so that the file is on no host. -/
  onDrive : Bool
deriving DecidableEq, Repr

namespace Trail

/-- Goes on to a segment that is no dots.  A drive letter that begins the path of a file is
written with a colon.  With a break behind it, it is a segment of its own, and then it does not
count as one that leaves no room for a host. -/
def enter (kind : SchemeKind) (trail : Trail) (piece : List Char) : Trail :=
  let segment := segmentOf piece
  if kind = .file ∧ trail.segments.isEmpty then
    match splitDrive? piece with
    | some (drive, behind) => ⟨[drive, behind], false⟩
    | none =>
        if isDriveLetter segment then ⟨[segment.take 1 ++ [':']], true⟩ else ⟨[segment], false⟩
  else ⟨trail.segments ++ [segment], trail.onDrive⟩

def follow (kind : SchemeKind) (trail : Trail) (piece : List Char) : Trail :=
  if isDoubleDot (segmentOf piece) then ⟨shorten trail.segments, trail.onDrive⟩
  else if isSingleDot (segmentOf piece) then trail
  else trail.enter kind piece

/-- The path that `text` writes behind its first slash.  After dots at the end it ends in a
slash, that is, in an empty segment. -/
def ofChars (kind : SchemeKind) (text : List Char) : Trail :=
  let pieces := text.splitOnP kind.slash
  let trail := pieces.foldl (follow kind) ⟨[], false⟩
  if pieces.getLast?.any isDots then ⟨trail.segments ++ [[]], trail.onDrive⟩ else trail

end Trail

/-- A slash before each segment.  In a file, slashes at the beginning count as one. -/
def renderSegments (kind : SchemeKind) (segments : List (List Char)) : List Char :=
  let path := segments.flatMap ('/' :: ·)
  if kind = .file then '/' :: path.dropWhile (· == '/') else path

def pathOf (kind : SchemeKind) (text : List Char) : List Char :=
  renderSegments kind (Trail.ofChars kind text).segments

/-- What `text` holds behind the slash that it may begin with, where breaks do not count. -/
def behindSlash? (kind : SchemeKind) (text : List Char) : Option (List Char) :=
  match text.dropWhile Text.isBreak with
  | c :: rest => if kind.slash c then some rest else none
  | [] => none

/-- What `text` holds behind that slash, or all of it. -/
def behindSlash (kind : SchemeKind) (text : List Char) : List Char :=
  (behindSlash? kind text).getD text

end LinkRouting.Url
