import LinkRouting.Log.Directive

namespace LinkRouting.Log

/-- A filter that is empty shows nothing. -/
structure Filter where
  directives : List Directive
deriving DecidableEq, Repr

namespace Filter

def upTo (level : Level) : Filter :=
  ⟨[⟨[], none, false, level.verbosity⟩]⟩

/-- Reads a filter.  A text without directives is taken for one that shows errors. -/
def ofString (text : String) : Except DirectiveError Filter :=
  match (text.toList.splitOn ',').filter fun piece => !piece.isEmpty with
  | [] => .ok (upTo .error)
  | pieces => (pieces.mapM Directive.ofChars).map (⟨·⟩)

/-- The more specific of two directives, and the later one if they are equally so. -/
def prefer (best : Option Directive) (next : Directive) : Option Directive :=
  match best with
  | none => some next
  | some best => some (if best.yieldsTo next then next else best)

def decisive? (filter : Filter) (event : Event) : Option Directive :=
  (filter.directives.filter (·.speaksOf event)).foldl prefer none

def shows (filter : Filter) (event : Event) : Bool :=
  (filter.decisive? event).any fun directive => event.level.verbosity ≤ directive.verbosity

/-- The first filter that is not malformed: that of the environment, then the configured one.
Without any, what is worth knowing in ordinary operation is shown. -/
def choose (environment : Option String) (configured : String) : Except DirectiveError Filter :=
  (environment.toList ++ [configured]).foldr
    (fun text otherwise =>
      match ofString text with
      | .error .malformed => otherwise
      | outcome => outcome)
    (.ok (upTo .info))

end Filter

end LinkRouting.Log
