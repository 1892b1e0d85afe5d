namespace LinkRouting

/-! A path pattern is a row of segments, and each segment says what one component of a path
may be.  The token `:name` is a parameter, `:name#` a parameter whose value stays as the URL
spells it, a final `*` the wildcard, and every other token a literal.
-/

inductive Segment where
  /-- Exactly this component. -/
  | literal (text : String)
  /-- Any one component, bound to `name` and percent-decoded on request. -/
  | parameter (name : String) (decoded : Bool)
  /-- Any number of components at the end. -/
  | wildcard
deriving DecidableEq, Repr, Inhabited

namespace Segment

/-- Classifies a token.  Only the `last` token of a pattern can be the wildcard. -/
def ofToken (token : List Char) (last : Bool) : Segment :=
  match token with
  | ':' :: name =>
      if name.getLast? = some '#' then .parameter (String.ofList name.dropLast) false
      else .parameter (String.ofList name) true
  | _ =>
      if token = ['*'] ∧ last = true then .wildcard
      else .literal (String.ofList token)

def token : Segment → List Char
  | .literal text => text.toList
  | .parameter name true => ':' :: name.toList
  | .parameter name false => ':' :: (name.toList ++ ['#'])
  | .wildcard => ['*']

def render (segment : Segment) : String :=
  String.ofList segment.token

def isWildcard : Segment → Bool
  | .wildcard => true
  | _ => false

theorem token_ofToken (token : List Char) (last : Bool) :
    (ofToken token last).token = token := by
  unfold ofToken
  split
  · rename_i name
    split
    · rename_i marked
      obtain ⟨start, rfl⟩ := List.getLast?_eq_some_iff.mp marked
      simp [Segment.token]
    · simp [Segment.token]
  · split
    · rename_i star
      simp [Segment.token, star.1]
    · simp [Segment.token]

end Segment

end LinkRouting
