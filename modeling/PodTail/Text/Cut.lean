/-!
# Cutting at a separator

`Cut.every` splits a list at every separator, `Cut.first?` and `Cut.before` at the first one only.
The separators belong to no piece, and `n` of them make `n + 1` pieces, empty ones included.
-/

set_option autoImplicit false

namespace PodTail

namespace Cut

variable {α : Type} [DecidableEq α]

/-- The pieces between all separators. -/
def every (sep : α) : List α → List (List α)
  | [] => [[]]
  | c :: rest =>
    if c = sep then [] :: every sep rest
    else
      match every sep rest with
      | [] => [[c]]
      | piece :: pieces => (c :: piece) :: pieces

/-- What stands before the first separator and what behind it, if there is one. -/
def first? (sep : α) : List α → Option (List α × List α)
  | [] => none
  | c :: rest =>
    if c = sep then some ([], rest)
    else (first? sep rest).map fun p => (c :: p.1, p.2)

/-- What stands before the first separator, or everything. -/
def before (sep : α) (l : List α) : List α :=
  l.takeWhile (· ≠ sep)

end Cut

end PodTail
