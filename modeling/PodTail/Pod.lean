import PodTail.Labels

/-!
# Pods

What the cluster says about a pod, as far as its logs are concerned, and the instants at which
pods are made.
-/

set_option autoImplicit false

namespace PodTail

/-- An instant to the second, counted from the start of 1970. An inserted second, written `:60`,
counts as the first of the next minute and remembers how it was written. -/
structure Instant where
  seconds : Int
  inserted : Bool
  deriving DecidableEq, Repr

/-- A pod, as the cluster describes it. -/
structure Pod where
  name : String
  containers : List String
  labels : Labels
  phase : String
  restarts : Int32
  created : Option Instant
  deriving DecidableEq

end PodTail
