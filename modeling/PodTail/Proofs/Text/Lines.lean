import PodTail.Proofs.Text.Cut

/-!
# The lines of a sequence

The specification of reading lines, for any type of items. A separator ends a line (`ended`), and a
mark right before it belongs to the ending (`less`). What stands behind the last separator is a line
that has not ended (`left`): it keeps its mark, and is no line at all if it is empty (`last`).
`lines` is all of them together.

Every sequence is one piece without the separator, or such a piece, the separator, and a shorter
sequence. `pieces` is the induction principle for that, and all laws here are proved with it.
-/

set_option autoImplicit false

namespace PodTail

namespace Cut

variable {α : Type} [DecidableEq α]

/-- The pieces that a separator ends. -/
def ended (sep : α) (l : List α) : List (List α) :=
  (every sep l).dropLast

/-- What stands behind the last separator. -/
def left (sep : α) (l : List α) : List α :=
  (every sep l).getLastD []

/-- A piece without a mark at its end. -/
def less (mark : α) (piece : List α) : List α :=
  if piece.getLast? = some mark then piece.dropLast else piece

/-- A line that has not ended, if there is anything of it. -/
def last (sep : α) (l : List α) : List (List α) :=
  if left sep l = [] then [] else [left sep l]

/-- The lines of a sequence. -/
def lines (sep mark : α) (l : List α) : List (List α) :=
  (ended sep l).map (less mark) ++ last sep l

/-- A sequence whose last line has ended. -/
def Closed (sep : α) (l : List α) : Prop :=
  l = [] ∨ l.getLast? = some sep

variable {sep mark : α} {piece : List α}

/-- Induction over the pieces of a sequence. -/
@[elab_as_elim]
theorem pieces (sep : α) {P : List α → Prop} (last : ∀ piece, sep ∉ piece → P piece)
    (more : ∀ piece rest, sep ∉ piece → P rest → P (piece ++ sep :: rest)) (l : List α) : P l := by
  by_cases mem : sep ∈ l
  · -- the piece is what stands before the first separator
    obtain ⟨piece, rest, whole, free⟩ := List.eq_append_cons_of_mem mem
    have shorter : rest.length < l.length := by
      rw [whole, List.length_append, List.length_cons]
      omega
    rw [whole]
    exact more piece rest free (pieces sep last more rest)
  · exact last l mem
termination_by l.length

/-! ## Pieces that have ended -/

theorem every_ne_nil (sep : α) (l : List α) : every sep l ≠ [] := by
  induction l using pieces sep with
  | last piece free => simp [every_of_not_mem free]
  | more piece rest free ih => simp [every_append free]

@[simp]
theorem ended_of_not_mem (free : sep ∉ piece) : ended sep piece = [] := by
  rw [ended, every_of_not_mem free]
  rfl

@[simp]
theorem left_of_not_mem (free : sep ∉ piece) : left sep piece = piece := by
  rw [left, every_of_not_mem free]
  rfl

@[simp]
theorem ended_append (free : sep ∉ piece) (rest : List α) :
    ended sep (piece ++ sep :: rest) = piece :: ended sep rest := by
  rw [ended, every_append free, List.dropLast_cons_of_ne_nil (every_ne_nil sep rest), ended]

@[simp]
theorem left_append (free : sep ∉ piece) (rest : List α) :
    left sep (piece ++ sep :: rest) = left sep rest := by
  obtain ⟨p, ps, eq⟩ := List.exists_cons_of_ne_nil (every_ne_nil sep rest)
  rw [left, every_append free, left, eq, List.getLastD_cons, List.getLastD_cons, List.getLastD_cons]

theorem not_mem_of_mem_ended {l : List α} (mem : piece ∈ ended sep l) : sep ∉ piece := by
  induction l using pieces sep with
  | last piece free => simp [free] at mem
  | more piece rest free ih =>
    rw [ended_append free, List.mem_cons] at mem
    rcases mem with rfl | mem
    · exact free
    · exact ih mem

theorem not_mem_left (l : List α) : sep ∉ left sep l := by
  induction l using pieces sep with
  | last piece free => rwa [left_of_not_mem free]
  | more piece rest free ih => rwa [left_append free]

/-- Nothing of a sequence is lost. -/
theorem ended_left (sep : α) (l : List α) :
    (ended sep l).flatMap (· ++ [sep]) ++ left sep l = l := by
  induction l using pieces sep with
  | last piece free => simp [free]
  | more piece rest free ih => simp [free, ih]

/-- Each separator ends one piece. -/
theorem length_ended (sep : α) (l : List α) : (ended sep l).length = l.count sep := by
  induction l using pieces sep with
  | last piece free => simp [free, List.count_eq_zero_of_not_mem free]
  | more piece rest free ih => simp [free, ih, List.count_eq_zero_of_not_mem free]

/-! ## Lines -/

/-- What stands before the mark at the end of a piece. -/
@[simp]
theorem less_concat (mark : α) (piece : List α) : less mark (piece ++ [mark]) = piece := by
  rw [less, if_pos List.getLast?_concat, List.dropLast_concat]

/-- A piece is left as it is just where no mark ends it. -/
theorem less_eq_self_iff : less mark piece = piece ↔ piece.getLast? ≠ some mark := by
  constructor
  · rintro same last
    obtain ⟨before, rfl⟩ := List.getLast?_eq_some_iff.mp last
    simp at same
  · exact fun other => if_neg other

theorem lines_of_not_mem (free : sep ∉ piece) :
    lines sep mark piece = if piece = [] then [] else [piece] := by
  simp [lines, last, free]

theorem lines_append (free : sep ∉ piece) (rest : List α) :
    lines sep mark (piece ++ sep :: rest) = less mark piece :: lines sep mark rest := by
  simp [lines, last, free]

/-- Lines behind others that have ended are lines for themselves. -/
theorem lines_closed {before : List α} (closed : Closed sep before) (rest : List α) :
    lines sep mark (before ++ rest) = lines sep mark before ++ lines sep mark rest := by
  induction before using pieces sep with
  | last piece free =>
    -- without a separator `Closed` leaves only the empty sequence
    obtain rfl : piece = [] := closed.resolve_right fun ends => free (List.mem_of_getLast? ends)
    simp [lines_of_not_mem free]
  | more piece others free ih =>
    have closed : Closed sep others := by
      rcases closed with empty | ends
      · simp at empty
      · cases others with
        | nil => exact Or.inl rfl
        | cons a others => exact Or.inr (by simpa using ends)
    rw [List.append_assoc, List.cons_append, lines_append free, lines_append free, ih closed]
    rfl

end Cut

end PodTail
