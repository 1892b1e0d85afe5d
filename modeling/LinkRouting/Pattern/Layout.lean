namespace LinkRouting

/-! A pattern may end in optional groups, each in parentheses: `/a(/b)(/c)` has the stem `/a`
and the groups `/b` and `/c`.  Groups do not nest, and only slashes may stand between and
behind them.  What is wrong with a pattern is told with the offset of the first character
that cannot be right, counted in bytes of UTF-8.
-/

inductive PatternError where
  /-- A group that is opened and never closed, or closed and never opened. -/
  | unbalancedGroup (pattern : String) (position : Nat)
  /-- A group that is opened inside another. -/
  | nestedGroup (pattern : String) (position : Nat)
  /-- Text other than slashes after the first group, outside of all groups. -/
  | textAfterGroup (pattern : String) (position : Nat)
  /-- More groups than are expanded. -/
  | tooManyGroups (pattern : String) (count limit : Nat)
  /-- Groups whose every expansion is blank. -/
  | noCandidates (pattern : String)
deriving DecidableEq, Repr

namespace PatternError

def message : PatternError → String
  | unbalancedGroup pattern position =>
      "unbalanced optional group in pattern `" ++ pattern ++ "` at byte " ++ toString position
  | nestedGroup pattern position =>
      "nested optional group in pattern `" ++ pattern ++ "` at byte " ++ toString position
  | textAfterGroup pattern position =>
      "unexpected text after optional group in pattern `" ++ pattern ++ "` at byte " ++
        toString position
  | tooManyGroups pattern count limit =>
      "pattern `" ++ pattern ++ "` has " ++ toString count ++ " optional groups, maximum is " ++
        toString limit
  | noCandidates pattern => "pattern `" ++ pattern ++ "` expands to no usable route"

end PatternError

namespace Pattern

/-- The fixed beginning of a pattern and the bodies of its groups in their order. -/
structure Layout where
  stem : List Char
  groups : List (List Char)
deriving DecidableEq, Repr

/-- The first thing wrong with the groups of a pattern, and where. -/
inductive Fault where
  | unbalanced (position : Nat)
  | nested (position : Nat)
  | textAfter (position : Nat)
deriving DecidableEq, Repr

def Fault.toError (pattern : String) : Fault → PatternError
  | .unbalanced position => .unbalancedGroup pattern position
  | .nested position => .nestedGroup pattern position
  | .textAfter position => .textAfterGroup pattern position

def consBody (c : Char) : List (List Char) → List (List Char)
  | [] => [[c]]
  | body :: bodies => (c :: body) :: bodies

mutual

/-- The bodies from inside a group that was opened at `opened`, of which the first is the rest
of the group's own. -/
def bodiesInside (opened position : Nat) : List Char → Except Fault (List (List Char))
  | [] => .error (.unbalanced opened)
  | c :: rest =>
      if c = '(' then .error (.nested position)
      else if c = ')' then
        (bodiesBetween (position + c.utf8Size) rest).map ([] :: ·)
      else (bodiesInside opened (position + c.utf8Size) rest).map (consBody c)

/-- The bodies of the groups that follow a closed group. -/
def bodiesBetween (position : Nat) : List Char → Except Fault (List (List Char))
  | [] => .ok []
  | c :: rest =>
      if c = '(' then bodiesInside position (position + c.utf8Size) rest
      else if c = ')' then .error (.unbalanced position)
      else if c = '/' then bodiesBetween (position + c.utf8Size) rest
      else .error (.textAfter position)

end

def layoutFrom (position : Nat) : List Char → Except Fault Layout
  | [] => .ok ⟨[], []⟩
  | c :: rest =>
      if c = '(' then
        (bodiesInside position (position + c.utf8Size) rest).map (⟨[], ·⟩)
      else if c = ')' then .error (.unbalanced position)
      else
        (layoutFrom (position + c.utf8Size) rest).map fun layout =>
          ⟨c :: layout.stem, layout.groups⟩

def layout (pattern : String) : Except PatternError Layout :=
  (layoutFrom 0 pattern.toList).mapError (Fault.toError pattern)

end Pattern

end LinkRouting
