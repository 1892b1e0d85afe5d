import LinkRouting.Pattern.Path
import LinkRouting.Request.Basic

namespace LinkRouting

/-- What a match binds: the parameters of the pattern in their order, and the components that
its wildcard captures. -/
structure Binding where
  assignments : List (String × String)
  captured : List String
deriving DecidableEq, Repr, Inhabited

namespace PathPattern

/-- Whether a literal stands for a component, as it is spelled or without its escapes. -/
def literalMatches (text component : String) : Bool :=
  text = component || (component.toList.contains '%' && text = decodeComponent component false)

/-- Lines segments up with components one to one. -/
def bindFixed (plus : Bool) : List Segment → List String → Option (List (String × String))
  | [], _ => some []
  | _, [] => some []
  | .literal text :: segments, component :: components =>
      if literalMatches text component then bindFixed plus segments components else none
  | .parameter name decoded :: segments, component :: components =>
      let value := if decoded then decodeComponent component plus else component
      (bindFixed plus segments components).map ((name, value) :: ·)
  | .wildcard :: _, _ :: _ => none

/-- Matches the path of `request`.  Without a wildcard there have to be as many components as
segments. -/
def bind (pattern : PathPattern) (request : Request) : Option Binding :=
  let count := pattern.fixed.length
  let fits :=
    if pattern.hasWildcard then count ≤ request.components.length
    else count = request.components.length
  if fits then
    (bindFixed request.options.decodePlus pattern.fixed request.components).map fun assignments =>
      ⟨assignments, if pattern.hasWildcard then request.components.drop count else []⟩
  else none

/-- The parameters that say which route was taken. -/
def identity (pattern : PathPattern) (scheme : String) (request : Request) : Params :=
  Dictionary.empty.insert Params.patternKey (.text pattern.canonical)
    |>.insert Params.urlKey (.text request.source)
    |>.insert Params.schemeKey (.text scheme)

/-- The parameters of a match.  Later ones replace earlier ones of the same name: those of the
caller, of the query, of the path, the captured components, and the identity of the route. -/
def params (pattern : PathPattern) (scheme : String) (request : Request) (binding : Binding) :
    Params :=
  let merged := request.additional.overlay request.query
  let bound := binding.assignments.foldl (fun params entry =>
    params.insert entry.1 (.text entry.2)) merged
  let captured :=
    if binding.captured.isEmpty then bound
    else bound.insert Params.wildcardKey (.list binding.captured)
  captured.overlay (identity pattern scheme request)

def respond (pattern : PathPattern) (scheme : String) (request : Request) : Option Params :=
  (pattern.bind request).map (pattern.params scheme request)

end PathPattern

end LinkRouting
