import PodTail.Json.Reader
import PodTail.Proofs.Json.Shape

/-!
# What is read has the shape that was wanted

`Json.read shape s` reads a document out of a text and refuses what the shape does not want.
`fits_of_read` says that it does so completely: what it has read fits the shape, in every part that
the shape asks for.

The reader is five mutual functions with fuel, and there is one lemma for each (`fits_of_valueFrom`,
`fits_of_listFrom`, `fits_of_objectFrom`, `fits_of_itemsFrom`, `fits_of_membersFrom`), proved
together by recursion on the fuel. The two that collect parts carry an invariant: what has been read
so far fits (`Under` for members), and no member stands twice that may stand only once (`Single`).
`finish_complete` turns the invariant into the shape's demands at the end of an object. Values
without parts are done before, since numbers and words cannot be lists or objects (`scalar_plain`).
-/

set_option autoImplicit false

namespace PodTail

namespace Json

namespace Shape

variable {j : Json} {depth : Nat} {shape : Shape}

/-! ## The leave to be null

`Shape.given` removes `optional` from a shape. What fits the rest fits the whole. -/

theorem item?_given (shape : Shape) : shape.given.item? = shape.item? := by
  fun_induction given shape with
  | case1 s ih => exact ih
  | case2 => rfl

theorem isObject_given (shape : Shape) : shape.given.isObject = shape.isObject := by
  fun_induction given shape with
  | case1 s ih => exact ih
  | case2 => rfl

theorem given_given (shape : Shape) : shape.given.given = shape.given := by
  fun_induction given shape with
  | case1 s ih => exact ih
  | case2 shape other =>
    cases shape with
    | optional s => exact (other s rfl).elim
    | any | scalar | list | table | record => rfl

theorem fitsScalar_of_given (h : shape.given.fitsScalar j = true) : shape.fitsScalar j = true := by
  fun_induction given shape with
  | case1 s ih => simp [fitsScalar, ih h]
  | case2 => exact h

theorem fits_of_given (h : fits j depth shape.given = true) : fits j depth shape = true := by
  cases j with
  | list l => rwa [fits_list_iff, item?_given, ← fits_list_iff] at h
  | object m => rwa [fits_object_iff, given_given, isObject_given, ← fits_object_iff] at h
  | null | bool | int | float | text =>
    simp only [fits] at h ⊢
    exact fitsScalar_of_given h

end Shape

/-- A document without parts. -/
def Plain : Json → Prop
  | .list _ | .object _ => False
  | _ => True

theorem Plain.fits {j : Json} {depth : Nat} {shape : Shape} (plain : j.Plain) :
    Shape.fits j depth shape = shape.fitsScalar j := by
  cases j with
  | list | object => exact plain.elim
  | null | bool | int | float | text => simp only [Shape.fits]

namespace Reader

variable {n depth : Nat} {shape : Shape} {bs rest : List UInt8} {j : Json}

/-! ## Values without parts

The fuel and the shape do not matter here: a word or a number is `Plain` wherever it is read. -/

theorem word_value {value : Json} {cs : List Char}
    (h : word value cs bs = .ok (j, rest)) : j = value := by
  fun_induction word value cs bs with
  | case1 => cases h; rfl
  | case2 => cases h
  | case3 c cs b bs same ih => exact ih h
  | case4 => cases h

section

variable {negative : Bool} {significand spare : Nat} {scale : Int}

theorem power_plain
    (h : power negative significand scale bs = .ok (j, rest)) : j.Plain := by
  unfold power at h
  grind [behind, Plain]

theorem scaled_plain
    (h : scaled negative significand scale bs = .ok (j, rest)) : j.Plain := by
  unfold scaled at h
  grind [behind, Plain, power_plain]

theorem whole_plain (h : whole negative n = some j) : j.Plain := by
  unfold whole at h
  split at h
  · cases h
    trivial
  split at h
  · cases h
    trivial
  · obtain ⟨x, -, rfl⟩ := Option.map_eq_some_iff.mp h
    trivial

theorem afterWhole_plain (h : afterWhole negative n spare bs = .ok (j, rest)) : j.Plain := by
  unfold afterWhole at h
  grind [behind, ahead, Plain, power_plain, scaled_plain, whole_plain, afterWhole.done]

theorem number_plain (h : number negative bs = .ok (j, rest)) : j.Plain := by
  unfold number at h
  grind [behind, ahead, afterWhole_plain]

end

theorem scalar_plain (h : scalar n bs = .ok (j, rest)) : j.Plain := by
  cases bs with
  | nil => cases h
  | cons b bs =>
    simp only [scalar] at h
    split at h
    · exact word_value h ▸ trivial
    split at h
    · exact word_value h ▸ trivial
    split at h
    · exact word_value h ▸ trivial
    split at h
    · exact number_plain h
    split at h
    · exact number_plain h
    split at h
    · cases read : textFrom n [] bs with
      | error stop =>
        rw [read] at h
        cases h
      | ok found =>
        rw [read] at h
        cases h
        trivial
    · cases h

theorem refuse_ne (n : Nat) (wanted : String) (bs : List UInt8) (x : Json × List UInt8) :
    refuse n wanted bs ≠ .ok x := by
  unfold refuse
  grind [behind, ahead]

/-- A wanted scalar is plain, and the scalar type has no complaint about it. -/
theorem wantedScalar_fits {s : Scalar}
    (h : wantedScalar n depth s bs = .ok (j, rest)) : j.Plain ∧ s.complaint? j = none := by
  unfold wantedScalar at h
  dsimp only at h
  split at h
  -- A list and an object are refused, the one that may be of two types with words of its own.
  · split at h <;> cases h
  · exact absurd h (refuse_ne _ _ _ _)
  · split at h
    · cases h
    next read =>
      split at h
      next fine =>
        cases h
        exact ⟨scalar_plain read, fine⟩
      · split at h <;> cases h

/-! ## Objects -/

/-- No member stands twice that may stand only once. -/
def Single (shape : Shape) (read : List (String × Json)) : Prop :=
  ∀ k, shape.single k = true → (read.filter (·.1 = k)).length ≤ 1

/-- Members that can be read under their keys. -/
def Under (depth : Nat) (shape : Shape) (read : List (String × Json)) : Prop :=
  ∀ e ∈ read, ∀ s, shape.under? e.1 = some s → Shape.fits e.2 depth s = true

variable {read m : List (String × Json)}

/-- `key` refuses a key that stands already and may stand only once. -/
theorem key_fresh {k : String} (h : key n shape read bs = .ok (k, rest))
    (single : shape.single k = true) : read.filter (·.1 = k) = [] := by
  unfold key at h
  split at h
  · cases h
  split at h
  · cases h
  next repeated =>
    split at h
    · cases h
    split at h
    · cases h
      refine List.filter_eq_nil_iff.mpr fun e mem same => repeated ?_
      rw [single, Bool.true_and]
      exact List.any_eq_true.mpr ⟨e, mem, same⟩
    · cases h

theorem Single.cons {k : String} (once : Single shape read)
    (fresh : shape.single k = true → read.filter (·.1 = k) = []) (j : Json) :
    Single shape ((k, j) :: read) := by
  intro k' single
  by_cases same : k = k'
  · subst same
    simp [fresh single]
  · simpa [List.filter_cons, same] using once k' single

/-- At the end of an object `finish` checks that nothing required is missing. With `Single` that is
    all that `Shape.complete` asks for. -/
theorem finish_complete (once : Single shape read) (h : finish shape read bs = .ok (m, rest)) :
    m = read.reverse ∧ shape.complete m = true := by
  unfold finish at h
  split at h
  · cases h
  next there =>
    cases h
    refine ⟨rfl, ?_⟩
    simp only [Shape.complete, Bool.and_eq_true, List.all_eq_true]
    refine ⟨fun k required => ?_, fun e mem => ?_⟩
    · have found := List.find?_eq_none.mp there k required
      simpa using found
    · cases single : shape.single e.1 with
      | false => rfl
      | true =>
        have most := once e.1 single
        have least : 0 < (read.filter (·.1 = e.1)).length :=
          List.length_pos_of_mem (List.mem_filter.mpr ⟨List.mem_reverse.mp mem, by simp⟩)
        simp only [List.filter_reverse, List.length_reverse, Bool.not_true, Bool.false_or,
          decide_eq_true_eq]
        omega

/-! ## Documents

One lemma for each function of the reader. In all of them the first case is the fuel that is used
up, which is a failure, and the others follow the branches of the function. -/

mutual

theorem fits_of_valueFrom {n depth : Nat} {shape : Shape} {bs rest : List UInt8} {j : Json}
    (h : valueFrom n depth shape bs = .ok (j, rest)) : Shape.fits j depth shape = true := by
  match n with
  | 0 =>
    rw [valueFrom] at h
    cases h
  | n + 1 =>
    rw [valueFrom] at h
    split at h
    · cases h
    cases shape with
    | optional s =>
      dsimp only at h
      -- null is read as itself, and anything else for the shape without the leave
      split at h
      · obtain rfl := word_value h
        rfl
      · have fits : Shape.fits j depth (Shape.optional s).given = true := fits_of_valueFrom h
        exact Shape.fits_of_given fits
    | scalar s =>
      obtain ⟨plain, fine⟩ := wantedScalar_fits h
      rw [plain.fits, Shape.fitsScalar, fine]
      rfl
    | any =>
      dsimp only at h
      split at h
      · exact fits_of_listFrom rfl h
      split at h
      · exact fits_of_objectFrom rfl rfl h
      · rw [(scalar_plain h).fits]
        rfl
    | list item =>
      dsimp only at h
      split at h
      · exact fits_of_listFrom rfl h
      · exact absurd h (refuse_ne _ _ _ _)
    | table value =>
      dsimp only at h
      split at h
      · exact fits_of_objectFrom rfl rfl h
      · exact absurd h (refuse_ne _ _ _ _)
    | record manner members =>
      cases manner with
      | loose name =>
        dsimp only at h
        split at h
        · exact fits_of_objectFrom rfl rfl h
        split at h
        -- A list that stands for an object is refused, in whatever depth.
        · split at h <;> cases h
        · exact absurd h (refuse_ne _ _ _ _)
      | strict name required =>
        dsimp only at h
        split at h
        · exact fits_of_objectFrom rfl rfl h
        · exact absurd h (refuse_ne _ _ _ _)

theorem fits_of_listFrom {n depth : Nat} {shape item : Shape} {b : UInt8} {bs rest : List UInt8}
    {j : Json} (wanted : shape.item? = some item)
    (h : listFrom n depth item b bs = .ok (j, rest)) : Shape.fits j depth shape = true := by
  match n, depth with
  | _, 0 =>
    rw [listFrom] at h
    cases h
  | 0, _ + 1 =>
    rw [listFrom] at h
    cases h
  | n + 1, depth + 1 =>
    rw [listFrom] at h
    cases items : itemsFrom n depth item true [] bs with
    | error stop =>
      rw [items] at h
      cases h
    | ok found =>
      rw [items] at h
      cases h
      exact Shape.fits_list_iff.mpr ⟨depth, item, rfl, wanted,
        fits_of_itemsFrom (fun j mem => absurd mem List.not_mem_nil) items⟩

theorem fits_of_objectFrom {n depth : Nat} {shape : Shape} {b : UInt8} {bs rest : List UInt8}
    {j : Json} (wanted : shape.isObject = true) (given : shape.given = shape)
    (h : objectFrom n depth shape b bs = .ok (j, rest)) : Shape.fits j depth shape = true := by
  match n, depth with
  | _, 0 =>
    rw [objectFrom] at h
    cases h
  | 0, _ + 1 =>
    rw [objectFrom] at h
    cases h
  | n + 1, depth + 1 =>
    rw [objectFrom] at h
    cases members : membersFrom n depth shape true [] bs with
    | error stop =>
      rw [members] at h
      cases h
    | ok found =>
      rw [members] at h
      cases h
      -- the invariant holds before the first member
      have once : Single shape [] := fun _ _ => Nat.zero_le 1
      have fit : Under depth shape [] := fun _ mem => absurd mem List.not_mem_nil
      obtain ⟨complete, fit⟩ := fits_of_membersFrom once fit members
      refine Shape.fits_object_iff.mpr ⟨depth, rfl, wanted, ?_⟩
      rw [given]
      exact ⟨complete, fit⟩

theorem fits_of_itemsFrom {n depth : Nat} {item : Shape} {first : Bool} {read l : List Json}
    {bs rest : List UInt8} (fit : ∀ j ∈ read, Shape.fits j depth item = true)
    (h : itemsFrom n depth item first read bs = .ok (l, rest)) :
    ∀ j ∈ l, Shape.fits j depth item = true := by
  match n with
  | 0 =>
    rw [itemsFrom] at h
    cases h
  | n + 1 =>
    rw [itemsFrom] at h
    split at h
    · cases h
    split at h
    · cases h
      exact fun j mem => fit j (List.mem_reverse.mp mem)
    dsimp only at h
    split at h
    · cases h
    split at h
    · cases h
    next value =>
      refine fits_of_itemsFrom ?_ h
      exact List.forall_mem_cons.mpr ⟨fits_of_valueFrom value, fit⟩

theorem fits_of_membersFrom {n depth : Nat} {shape : Shape} {first : Bool}
    {read m : List (String × Json)} {bs rest : List UInt8} (once : Single shape read)
    (fit : Under depth shape read)
    (h : membersFrom n depth shape first read bs = .ok (m, rest)) :
    shape.complete m = true ∧ Under depth shape m := by
  match n with
  | 0 =>
    rw [membersFrom] at h
    cases h
  | n + 1 =>
    rw [membersFrom] at h
    split at h
    · cases h
    split at h
    · -- The object ends here, with what has been read.
      obtain ⟨rfl, complete⟩ := finish_complete once h
      exact ⟨complete, fun e mem => fit e (List.mem_reverse.mp mem)⟩
    dsimp only at h
    split at h
    · cases h
    · cases h
    split at h
    · cases h
    split at h
    · split at h
      · cases h
      next k _ found =>
      split at h
      next s under =>
        -- One more member is read. It fits, and is the first of its key where it must be.
        split at h
        · cases h
        next j _ value =>
          refine fits_of_membersFrom (once.cons (key_fresh found) j) ?_ h
          refine List.forall_mem_cons.mpr ⟨fun s' same => ?_, fit⟩
          obtain rfl := Option.some.inj (under.symm.trans same)
          exact fits_of_valueFrom value
      · -- Nobody asks for the member, and it is passed over.
        split at h
        · cases h
        · exact fits_of_membersFrom once fit h
    · cases h

end

end Reader

/-- **What is read of a text has the shape that was wanted.** -/
theorem fits_of_read {shape : Shape} {s : String} {j : Json} (h : read shape s = .ok j) :
    Shape.fits j Reader.depthLimit shape = true := by
  unfold read at h
  dsimp only at h
  split at h
  · cases h
  next value =>
    split at h
    · cases h
      exact Reader.fits_of_valueFrom value
    · cases h

end Json

end PodTail
