import Mathlib.Algebra.Order.BigOperators.Group.List
import Mathlib.Algebra.Order.Ring.Int
import Mathlib.Data.List.Forall2
import PodTail.Api.Manifest

/-!
# The pods that manifests describe

`Manifest.pod` takes each field from where it stands and fails in one place only: the restart counts
are added up with `Manifest.add`, which fails as soon as a sum leaves 32 bits. So the facts here are
about `foldlM add`.

* `foldlM_add_cases`: the fold gives the exact sum if all partial sums are narrow (`StaysNarrow`),
  and fails otherwise. It is an induction on the counts with any number to start from, and
  `add_cases` is its step.
* `pod_cases` is the same for `pod`, and `mapM_pod_cases` for a list of manifests, as
  `Server.listPods` reads one: either all of them describe pods (`Describe`), or one of them fails.

The bound is on every partial sum and not on the last alone: with negative counts, which a manifest
may hold, a sum can leave 32 bits and come back. `staysNarrow_iff` says that it cannot if no count
is negative.
-/

set_option autoImplicit false

namespace PodTail

namespace Manifest

/-! ## Sums of 32 bits -/

theorem narrow_toInt (a : Int32) : Narrow a.toInt := by
  have least := a.le_toInt
  have greatest := a.toInt_lt
  exact ⟨by omega, by omega⟩

theorem toInt_ofInt {n : Int} (narrow : Narrow n) : (Int32.ofInt n).toInt = n :=
  Int32.toInt_ofInt_of_le (by have := narrow.1; omega) (by have := narrow.2; omega)

/-- `add` gives the exact sum if that has 32 bits, and fails otherwise. It never wraps. -/
theorem add_cases (a b : Int32) :
    (Narrow (a.toInt + b.toInt) ∧ ∃ c, add a b = .ok c ∧ c.toInt = a.toInt + b.toInt) ∨
      (¬ Narrow (a.toInt + b.toInt) ∧ add a b = .error .overflow) := by
  by_cases narrow : Narrow (a.toInt + b.toInt)
  · refine Or.inl ⟨narrow, a + b, if_pos narrow, ?_⟩
    have sum : a + b = Int32.ofInt (a.toInt + b.toInt) := by
      rw [Int32.ofInt_add, Int32.ofInt_toInt, Int32.ofInt_toInt]
    rw [sum, toInt_ofInt narrow]
  · exact Or.inr ⟨narrow, if_neg narrow⟩

/-- No partial sum leaves 32 bits, if the counts are added up from the first to the last. -/
def StaysNarrow (counts : List Int) : Prop :=
  ∀ part, part <+: counts → Narrow part.sum

/-- The prefixes of a list with one more count in front are the empty one, and those of the list
    with the count in front. -/
theorem parts_cons {P : Int → Prop} {start n : Int} {counts : List Int} (first : P start) :
    (∀ part, part <+: n :: counts → P (start + part.sum)) ↔
      ∀ part, part <+: counts → P (start + n + part.sum) := by
  constructor
  · intro each part before
    simpa [Int.add_assoc] using each (n :: part) ((List.prefix_cons_inj n).mpr before)
  · intro each part before
    rcases List.prefix_cons_iff.mp before with rfl | ⟨rest, rfl, within⟩
    · simpa using first
    · simpa [Int.add_assoc] using each rest within

/-- Adding up gives the exact sum if all partial sums are narrow, and fails otherwise. The start is
    general, since it moves in the induction. -/
theorem foldlM_add_cases (start : Int32) (counts : List Int32) :
    ((∀ part, part <+: counts.map Int32.toInt → Narrow (start.toInt + part.sum)) ∧
        ∃ t, counts.foldlM add start = .ok t ∧
          t.toInt = start.toInt + (counts.map Int32.toInt).sum) ∨
      ((¬ ∀ part, part <+: counts.map Int32.toInt → Narrow (start.toInt + part.sum)) ∧
        counts.foldlM add start = .error .overflow) := by
  induction counts generalizing start with
  | nil =>
    refine Or.inl ⟨?_, start, rfl, by simp⟩
    intro part before
    obtain rfl := List.prefix_nil.mp before
    simpa using narrow_toInt start
  | cons n counts ih =>
    rw [List.map_cons, parts_cons (narrow_toInt start), List.foldlM_cons, List.sum_cons,
      ← Int.add_assoc]
    -- the first sum is either the start of the rest, or the partial sum that is not narrow
    rcases add_cases start n with ⟨_, next, added, exact⟩ | ⟨wide, failed⟩
    · rw [added, ← exact]
      exact ih next
    · refine Or.inr ⟨fun each => wide ?_, by rw [failed]; rfl⟩
      simpa using each [] List.nil_prefix

/-- The case of `foldlM_add_cases` that starts from zero. -/
theorem totalRestarts_cases (counts : List Int32) :
    (StaysNarrow (counts.map Int32.toInt) ∧
        ∃ t, totalRestarts counts = .ok t ∧ t.toInt = (counts.map Int32.toInt).sum) ∨
      (¬ StaysNarrow (counts.map Int32.toInt) ∧ totalRestarts counts = .error .overflow) := by
  simpa [StaysNarrow, totalRestarts] using foldlM_add_cases 0 counts

/-- If no count is negative, no partial sum is greater than the last. -/
theorem staysNarrow_iff {counts : List Int} (natural : ∀ n ∈ counts, 0 ≤ n) :
    StaysNarrow counts ↔ Narrow counts.sum := by
  constructor
  · intro each
    exact each counts (List.prefix_refl counts)
  · rintro ⟨-, greatest⟩ part before
    have least : 0 ≤ part.sum := List.sum_nonneg fun n mem => natural n (before.subset mem)
    have most : part.sum ≤ counts.sum := before.sublist.sum_le_sum natural
    exact ⟨by omega, by omega⟩

/-! ## One manifest -/

/-- The restart counts in a manifest, as they are added up. -/
def counted (j : Json) : List Int32 :=
  (itemsUnder "containerStatuses" ((j.given? "status").getD .null)).map restartCount

/-- A pod that is read has the labels of its manifest. -/
theorem labels_of_read {j : Json} {p : Pod} (read : pod j = .ok p) : p.labels = labels j := by
  have outcome : pod j = (totalRestarts (counted j)).map fun restarts => _ := rfl
  rw [outcome] at read
  cases total : totalRestarts (counted j) with
  | error cause =>
    rw [total] at read
    cases read
  | ok restarts =>
    rw [total] at read
    cases read
    rfl

/-- A manifest describes a pod whose number of restarts is the sum of the counts, or fails since the
    counts do not add up. -/
theorem pod_cases (j : Json) :
    (StaysNarrow ((counted j).map Int32.toInt) ∧
        ∃ p, pod j = .ok p ∧ p.restarts.toInt = ((counted j).map Int32.toInt).sum) ∨
      (¬ StaysNarrow ((counted j).map Int32.toInt) ∧ pod j = .error .overflow) := by
  have outcome : pod j = (totalRestarts (counted j)).map fun restarts => _ := rfl
  rw [outcome]
  rcases totalRestarts_cases (counted j) with ⟨narrow, t, total, exact⟩ | ⟨wide, failed⟩
  · rw [total]
    exact Or.inl ⟨narrow, _, rfl, exact⟩
  · rw [failed]
    exact Or.inr ⟨wide, rfl⟩

/-! ## Lists of manifests -/

/-- Manifests that are read as pods, one by one. -/
def Describe (js : List Json) (pods : List Pod) : Prop :=
  List.Forall₂ (fun j p => pod j = .ok p) js pods

variable {js : List Json} {pods : List Pod}

/-- Such manifests are read as the list of the pods. -/
theorem Describe.mapM (describe : Describe js pods) : js.mapM pod = .ok pods := by
  induction describe with
  | nil => rfl
  | cons read _ ih =>
    rw [List.mapM_cons, read, ih]
    rfl

/-- The pods are those that the manifests are read as. -/
theorem Describe.mem_iff (describe : Describe js pods) {p : Pod} :
    p ∈ pods ↔ ∃ j ∈ js, pod j = .ok p := by
  induction describe with
  | nil => simp
  | cons read _ ih =>
    simp [ih, read, eq_comm]

/-- None of them fails. -/
theorem Describe.read (describe : Describe js pods) {j : Json} (mem : j ∈ js) :
    ∃ p, pod j = .ok p := by
  induction describe with
  | nil => cases mem
  | cons read _ ih =>
    rcases List.mem_cons.mp mem with rfl | mem
    · exact ⟨_, read⟩
    · exact ih mem

/-- A list of manifests is read as pods, or fails because one of them overflows. There is no other
    failure, so that which of them is read first does not matter. -/
theorem mapM_pod_cases (js : List Json) :
    (∃ pods, js.mapM pod = .ok pods ∧ Describe js pods) ∨
      (js.mapM pod = .error .overflow ∧ ∃ j ∈ js, pod j = .error .overflow) := by
  induction js with
  | nil => exact Or.inl ⟨[], rfl, .nil⟩
  | cons j js ih =>
    rw [List.mapM_cons]
    rcases pod_cases j with ⟨-, p, read, -⟩ | ⟨-, failed⟩
    · rcases ih with ⟨pods, rest, describe⟩ | ⟨rest, k, mem, overflows⟩
      · rw [read, rest]
        exact Or.inl ⟨p :: pods, rfl, .cons read describe⟩
      · rw [read, rest]
        exact Or.inr ⟨rfl, k, List.mem_cons_of_mem j mem, overflows⟩
    · rw [failed]
      exact Or.inr ⟨rfl, j, List.mem_cons_self, failed⟩

end Manifest

end PodTail
