/-!
# Ages

How long ago a pod was made, in its largest whole unit: seconds, minutes, hours or days. A clock
that runs behind can put the making of a pod in the future; such a pod is new, `0s`.
-/

set_option autoImplicit false

namespace PodTail

namespace Age

/-- The age after so many whole seconds. -/
def ofSeconds (s : Nat) : String :=
  if s < 60 then toString s ++ "s"
  else if s < 3600 then toString (s / 60) ++ "m"
  else if s < 86400 then toString (s / 3600) ++ "h"
  else toString (s / 86400) ++ "d"

/-- The age of what was made `elapsed` milliseconds ago; `none` where that is not known. -/
def text : Option Int → String
  | none => "unknown"
  | some elapsed => ofSeconds (elapsed / 1000).toNat

end Age

end PodTail
