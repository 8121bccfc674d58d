import Mathlib.Data.List.TakeWhile
import PodTail.Text.Cut

/-!
# Pieces between separators

`Cut.every`, `Cut.first?` and `Cut.before` on sequences that are put together from pieces without
the separator. Each has a lemma for a piece alone (`…_of_not_mem`) and one for a piece with the
separator and more behind it (`…_append`), by induction on the piece. They are all that later proofs
use of the definitions.
-/

set_option autoImplicit false

namespace PodTail

namespace Cut

variable {α : Type} [DecidableEq α] {sep : α} {piece : List α}

theorem before_of_not_mem (h : sep ∉ piece) : before sep piece = piece := by
  induction piece with
  | nil => rfl
  | cons c piece ih =>
    have ne : c ≠ sep := fun same => h (same ▸ List.mem_cons_self)
    rw [before, List.takeWhile_cons_of_pos (by simpa using ne), ← before,
      ih fun mem => h (List.mem_cons_of_mem c mem)]

theorem first_of_not_mem (h : sep ∉ piece) : first? sep piece = none := by
  induction piece with
  | nil => rfl
  | cons c piece ih =>
    have ne : c ≠ sep := fun same => h (same ▸ List.mem_cons_self)
    rw [first?, if_neg ne, ih fun mem => h (List.mem_cons_of_mem c mem)]
    rfl

theorem first_append (h : sep ∉ piece) (rest : List α) :
    first? sep (piece ++ sep :: rest) = some (piece, rest) := by
  induction piece with
  | nil => rw [List.nil_append, first?, if_pos rfl]
  | cons c piece ih =>
    have ne : c ≠ sep := fun same => h (same ▸ List.mem_cons_self)
    rw [List.cons_append, first?, if_neg ne, ih fun mem => h (List.mem_cons_of_mem c mem)]
    rfl

theorem every_of_not_mem (h : sep ∉ piece) : every sep piece = [piece] := by
  induction piece with
  | nil => rfl
  | cons c piece ih =>
    have ne : c ≠ sep := fun same => h (same ▸ List.mem_cons_self)
    rw [every, if_neg ne, ih fun mem => h (List.mem_cons_of_mem c mem)]

theorem every_append (h : sep ∉ piece) (rest : List α) :
    every sep (piece ++ sep :: rest) = piece :: every sep rest := by
  induction piece with
  | nil => rw [List.nil_append, every, if_pos rfl]
  | cons c piece ih =>
    have ne : c ≠ sep := fun same => h (same ▸ List.mem_cons_self)
    rw [List.cons_append, every, if_neg ne, ih fun mem => h (List.mem_cons_of_mem c mem)]

/-- Pieces that a separator has been put between are the pieces of what they make together. -/
theorem every_intercalate {pieces : List (List α)} (some : pieces ≠ [])
    (free : ∀ piece ∈ pieces, sep ∉ piece) : every sep ([sep].intercalate pieces) = pieces := by
  induction pieces with
  | nil => exact absurd rfl some
  | cons piece pieces ih =>
    obtain ⟨here, there⟩ := List.forall_mem_cons.mp free
    cases pieces with
    | nil => rw [List.intercalate_singleton, every_of_not_mem here]
    | cons next pieces =>
      rw [List.intercalate_cons_cons, List.append_assoc, List.singleton_append, every_append here,
        ih (List.cons_ne_nil _ _) there]

/-- The first piece is what stands before the first separator. -/
theorem every_head (sep : α) (l : List α) : ∃ more, every sep l = before sep l :: more := by
  induction l with
  | nil => exact ⟨[], rfl⟩
  | cons c l ih =>
    obtain ⟨more, eq⟩ := ih
    by_cases here : c = sep
    · subst here
      exact ⟨every c l, by simp [every, before]⟩
    · exact ⟨more, by rw [every, if_neg here, eq]; simp [before, here]⟩

@[simp]
theorem head?_every (sep : α) (l : List α) : (every sep l).head? = some (before sep l) := by
  obtain ⟨more, eq⟩ := every_head sep l
  rw [eq, List.head?_cons]

theorem before_append (free : sep ∉ piece) (rest : List α) :
    before sep (piece ++ rest) = piece ++ before sep rest := by
  refine List.takeWhile_append_of_pos fun c mem => ?_
  simpa using fun same : c = sep => free (same ▸ mem)

theorem before_eq_iff {l : List α} : before sep l = l ↔ sep ∉ l := by
  refine ⟨fun same mem => ?_, before_of_not_mem⟩
  simpa using List.takeWhile_eq_self_iff.mp same sep mem

end Cut

end PodTail
