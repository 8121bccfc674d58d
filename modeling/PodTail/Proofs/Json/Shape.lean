import PodTail.Json.Shape

/-!
# A document that fits

Lemmas about `Shape.fits j depth shape`, which says that a document has a shape with lists and
objects nested `depth` deep at most.

It is monotone in the depth (`fits_mono`): the same document can be sent by itself and as an item of
a list, where it has less room. And it descends to the parts: `fits_item` for the items of a list,
and `fits_given` for what is given under a key. The `…_iff` lemmas replace the three mutual
functions by statements about all items and members, so that later proofs need not go into them.
-/

set_option autoImplicit false

namespace PodTail

namespace Json

namespace Shape

mutual

/-- More room does no harm. -/
theorem fits_mono {j : Json} {depth depth' : Nat} {shape : Shape} (more : depth ≤ depth')
    (h : fits j depth shape = true) : fits j depth' shape = true := by
  match j, depth, depth' with
  -- a list and an object take one of the room on both sides
  | .list l, depth + 1, depth' + 1 =>
    unfold fits at h ⊢
    cases wanted : shape.item? with
    | none =>
      rw [wanted] at h
      cases h
    | some item =>
      rw [wanted] at h
      exact fitsItems_mono (Nat.le_of_succ_le_succ more) h
  | .object m, depth + 1, depth' + 1 =>
    simp only [fits, Bool.and_eq_true] at h ⊢
    exact ⟨h.1, fitsMembers_mono (Nat.le_of_succ_le_succ more) h.2⟩
  | .list l, 0, _ | .object l, 0, _ => cases h
  | .null, _, _ | .bool _, _, _ | .int _, _, _ | .float _, _, _ | .text _, _, _ =>
    simpa only [fits] using h

theorem fitsItems_mono {l : List Json} {depth depth' : Nat} {item : Shape} (more : depth ≤ depth')
    (h : fitsItems l depth item = true) : fitsItems l depth' item = true := by
  match l with
  | [] => rfl
  | j :: rest =>
    simp only [fitsItems, Bool.and_eq_true] at h ⊢
    exact ⟨fits_mono more h.1, fitsItems_mono more h.2⟩

theorem fitsMembers_mono {m : List (String × Json)} {depth depth' : Nat} {shape : Shape}
    (more : depth ≤ depth') (h : fitsMembers m depth shape = true) :
    fitsMembers m depth' shape = true := by
  match m with
  | [] => rfl
  | (k, j) :: rest =>
    simp only [fitsMembers, Bool.and_eq_true] at h ⊢
    refine ⟨?_, fitsMembers_mono more h.2⟩
    cases under : shape.under? k with
    | none => rfl
    | some s =>
      simp only [under] at h
      exact fits_mono more h.1

end

/-! ## The parts of a document that fits -/

variable {j : Json} {l : List Json} {m : List (String × Json)} {depth : Nat} {shape : Shape}

theorem fitsItems_iff {item : Shape} :
    fitsItems l depth item = true ↔ ∀ j ∈ l, fits j depth item = true := by
  induction l with
  | nil => simp [fitsItems]
  | cons j l ih => rw [fitsItems, Bool.and_eq_true, ih, List.forall_mem_cons]

theorem fitsItems_of_forall {item : Shape} (h : ∀ j ∈ l, fits j depth item = true) :
    fitsItems l depth item = true :=
  fitsItems_iff.mpr h

theorem fitsMembers_iff :
    fitsMembers m depth shape = true ↔
      ∀ e ∈ m, ∀ s, shape.under? e.1 = some s → fits e.2 depth s = true := by
  induction m with
  | nil => simp [fitsMembers]
  | cons e m ih =>
    rw [fitsMembers, Bool.and_eq_true, ih, List.forall_mem_cons]
    refine and_congr_left' ?_
    cases shape.under? e.1 <;> simp

theorem fits_list_iff :
    fits (.list l) depth shape = true ↔
      ∃ d item, depth = d + 1 ∧ shape.item? = some item ∧ ∀ j ∈ l, fits j d item = true := by
  cases depth with
  | zero => simp [fits]
  | succ d =>
    cases wanted : shape.item? with
    | none => simp [fits, wanted]
    | some item => simp [fits, wanted, fitsItems_iff]

theorem fits_object_iff :
    fits (.object m) depth shape = true ↔
      ∃ d, depth = d + 1 ∧ shape.isObject = true ∧ shape.given.complete m = true ∧
        ∀ e ∈ m, ∀ s, shape.given.under? e.1 = some s → fits e.2 d s = true := by
  cases depth with
  | zero => simp [fits]
  | succ d => simp [fits, fitsMembers_iff, and_assoc]

theorem lastUnder_mem {key : String} (h : lastUnder key m = some j) : (key, j) ∈ m := by
  fun_induction lastUnder key m with
  | case1 => cases h
  | case2 k j' m found there ih => exact List.mem_cons_of_mem _ (ih (there.trans h))
  | case3 j' m none ih =>
    cases h
    exact List.mem_cons_self
  | case4 => cases h

/-- What is given under a key fits what is wanted there. -/
theorem fits_given {key : String} {found : Json} {s : Shape} (h : fits j depth shape = true)
    (given : j.given? key = some found) (under : shape.given.under? key = some s) :
    ∃ d, fits found d s = true := by
  -- what is given is the last member under the key, unless that is null
  have member : j.member? key = some found := by
    unfold given? at given
    split at given
    · cases given
    · exact given
  cases j with
  | object m =>
    obtain ⟨d, -, -, -, each⟩ := fits_object_iff.mp h
    exact ⟨d, each (key, found) (lastUnder_mem member) s under⟩
  | null | bool | int | float | text | list => cases member

/-- The items of a list fit what is wanted of an item. -/
theorem fits_item {item : Shape} (h : fits j depth shape = true) (wanted : shape.item? = some item) :
    ∀ c ∈ j.items, ∃ d, fits c d item = true := by
  intro c mem
  cases j with
  | list l =>
    obtain ⟨d, item', -, wanted', each⟩ := fits_list_iff.mp h
    obtain rfl := Option.some.inj (wanted.symm.trans wanted')
    exact ⟨d, each c mem⟩
  | null | bool | int | float | text | object => cases mem

end Shape

end Json

end PodTail
