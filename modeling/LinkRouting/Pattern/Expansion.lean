import LinkRouting.Pattern.Layout
import LinkRouting.Pattern.Ordering
import LinkRouting.Pattern.Path
import LinkRouting.Ranking
import LinkRouting.Text.Blank

namespace LinkRouting.Pattern

/-- The most groups a pattern may have.  Six have 1957 orderings. -/
def maxGroups : Nat := 6

/-- Keeps the first of all elements with the same key, when those of `seen` are taken. -/
def distinctOn [DecidableEq κ] (key : α → κ) (seen : List κ) : List α → List α
  | [] => []
  | a :: rest =>
      if key a ∈ seen then distinctOn key seen rest
      else a :: distinctOn key (key a :: seen) rest

namespace Layout

/-- The text of each ordering of the groups that is not blank. -/
def spellings (layout : Layout) : List (List Char) :=
  ((orderings layout.groups).map fun order => layout.stem ++ order.flatten).filter
    fun text => !text.all Text.isBlank

/-- The distinct path patterns of the layout in the order of the orderings. -/
def variants (layout : Layout) : List PathPattern :=
  distinctOn PathPattern.canonical [] (layout.spellings.map PathPattern.ofChars)

/-- The distinct path patterns of the layout, those with more components first. -/
def candidates (layout : Layout) : List PathPattern :=
  sortDescending PathPattern.size layout.variants

end Layout

/-- The path patterns that `pattern` stands for, in the order in which they are tried. -/
def compile (pattern : String) : Except PatternError (List PathPattern) :=
  match layout pattern with
  | .error error => .error error
  | .ok layout =>
      if layout.groups.isEmpty then .ok [PathPattern.ofString pattern]
      else if maxGroups < layout.groups.length then
        .error (.tooManyGroups pattern layout.groups.length maxGroups)
      else
        match layout.candidates with
        | [] => .error (.noCandidates pattern)
        | candidates => .ok candidates

def expand (pattern : String) : Except PatternError (List String) :=
  (compile pattern).map (List.map PathPattern.canonical)

end LinkRouting.Pattern
