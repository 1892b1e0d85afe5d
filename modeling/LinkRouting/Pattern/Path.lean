import LinkRouting.Pattern.Segment

namespace LinkRouting

/-- The segments that the components of a path have to line up with. -/
structure PathPattern where
  segments : List Segment
deriving DecidableEq, Repr, Inhabited

namespace PathPattern

/-- The pieces between slashes.  Empty ones, at the ends or between two slashes, are no tokens. -/
def tokens (text : List Char) : List (List Char) :=
  (text.splitOn '/').filter fun token => !token.isEmpty

def classify : List (List Char) → List Segment
  | [] => []
  | [token] => [Segment.ofToken token true]
  | token :: rest => Segment.ofToken token false :: classify rest

def ofChars (text : List Char) : PathPattern :=
  ⟨classify (tokens text)⟩

/-- Reads a pattern.  Every text is one; parentheses have no meaning here. -/
def ofString (text : String) : PathPattern :=
  ofChars text.toList

/-- The canonical text: a slash before each token, or a lone slash where there is none. -/
def chars (pattern : PathPattern) : List Char :=
  if pattern.segments.isEmpty then ['/']
  else pattern.segments.flatMap fun segment => '/' :: segment.token

def canonical (pattern : PathPattern) : String :=
  String.ofList pattern.chars

/-- The number of components that the pattern speaks of, which tells how specific it is. -/
def size (pattern : PathPattern) : Nat :=
  pattern.segments.length

def hasWildcard (pattern : PathPattern) : Bool :=
  pattern.segments.getLast?.any Segment.isWildcard

/-- The segments that match exactly one component each. -/
def fixed (pattern : PathPattern) : List Segment :=
  if pattern.hasWildcard then pattern.segments.dropLast else pattern.segments

end PathPattern

end LinkRouting
