namespace LinkRouting

inductive DispatchOutcome where
  | handled
  | unmatched
  | invalidUrl
deriving DecidableEq, Repr

def DispatchOutcome.name : DispatchOutcome → String
  | handled => "handled"
  | unmatched => "unmatched"
  | invalidUrl => "invalid_url"

inductive Metric where
  /-- A dispatch by the router of `scheme` has ended. -/
  | dispatched (scheme : String) (outcome : DispatchOutcome)
  /-- A handler of a route of `scheme` has declined. -/
  | declined (scheme : String)
  /-- This many routes are registered for `scheme` now. -/
  | registered (scheme : String) (count : Nat)
deriving DecidableEq, Repr

namespace Metric

def name : Metric → String
  | dispatched .. => "deeplink_dispatch_total"
  | declined .. => "deeplink_declines_total"
  | registered .. => "deeplink_routes_registered"

def labels : Metric → List (String × String)
  | dispatched scheme outcome => [("scheme", scheme), ("outcome", outcome.name)]
  | declined scheme => [("scheme", scheme)]
  | registered scheme _ => [("scheme", scheme)]

/-- The new value of a gauge.  Counters go up by one instead. -/
def gauge? : Metric → Option Nat
  | registered _ count => some count
  | _ => none

end Metric

end LinkRouting
