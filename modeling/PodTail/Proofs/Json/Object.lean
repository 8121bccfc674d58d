import PodTail.Json.Printer
import PodTail.Json.Reader
import PodTail.Proofs.Text.Utf8

/-!
# Objects, from their first byte on

What can be said of an object's text when only its beginning is known. If a text that begins with a
brace is read at all, it is read as an object (`read_brace`), and the members read so far stay in
it, whatever comes behind (`read_prefix`).

`members_passed` and `members_read` are one step of `membersFrom` each, for a member that the shape
does not ask for and for one that it does. Both start from a key that has been read; `key_plain`
reads one that is made of letters and digits. With these a text can be read as far as it is known,
member by member.
-/

set_option autoImplicit false

namespace PodTail

namespace Json

/-! ## Members -/

/-- A key that stands only once is found where it stands. -/
theorem lastUnder_head {key : String} {j : Json} {m : List (String × Json)}
    (once : (((key, j) :: m).filter (·.1 = key)).length ≤ 1) :
    lastUnder key ((key, j) :: m) = some j := by
  have others : lastUnder key m = none := by
    have none : ∀ e ∈ m, e.1 ≠ key := by
      simpa [List.filter_cons, List.filter_eq_nil_iff] using once
    clear once
    induction m with
    | nil => rfl
    | cons e m ih =>
      obtain ⟨here, there⟩ := List.forall_mem_cons.mp none
      rw [lastUnder, ih there]
      simp [here]
  rw [lastUnder, others]
  simp

/-- The text of an object of three members or more, with the first two written out. -/
theorem compact_two (k k' : String) (j j' : Json) (e : String × Json) (m : List (String × Json)) :
    ∃ more, (Json.object ((k, j) :: (k', j') :: e :: m)).compact =
      "\x7b" ++ (quote k ++ ":" ++ j.compact ++ "," ++ (quote k' ++ ":" ++ j'.compact) ++ "," ++
        more) := by
  refine ⟨",".intercalate (compactMembers (e :: m)) ++ "\x7d", ?_⟩
  simp only [compact, compactMembers, String.intercalate_cons_cons, String.append_assoc]

namespace Reader

/-! ## Reading -/

/-- The members read so far are the first members of the object. The induction is on the fuel, along
    the branches of `membersFrom`. -/
theorem read_prefix {n depth : Nat} {shape : Shape} {first : Bool} {read m : List (String × Json)}
    {bs rest : List UInt8} (h : membersFrom n depth shape first read bs = .ok (m, rest)) :
    read.reverse <+: m := by
  induction n generalizing first read bs with
  | zero => simp [membersFrom, behind] at h
  | succ n ih =>
    rw [membersFrom] at h
    split at h
    · cases h
    split at h
    · -- The object ends here, with what has been read.
      unfold finish at h
      split at h <;> cases h
      exact List.prefix_refl _
    dsimp only at h
    split at h
    · cases h
    · cases h
    split at h
    · cases h
    split at h
    · split at h
      · cases h
      split at h
      · -- One more member is read, or none.
        split at h
        · cases h
        · have longer := ih h
          rw [List.reverse_cons] at longer
          exact (List.prefix_append _ _).trans longer
      · split at h
        · cases h
        · exact ih h
    · cases h

section

open Ascii (is isPlain)

variable {n depth : Nat} {shape : Shape} {read : List (String × Json)} {k : String}
  {more rest left : List UInt8}

/-- A letter or a digit is no quote, no backslash and no control character. -/
theorem isPlain_apart {b : UInt8} (plain : isPlain b = true) :
    is '"' b = false ∧ is '\\' b = false ∧ ¬ b < 0x20 := by
  have other : ∀ c : Char, isPlain c.toUInt8 = false → is c b = false := by
    intro c special
    refine decide_eq_false fun same => ?_
    rw [same, special] at plain
    cases plain
  refine ⟨other '"' rfl, other '\\' rfl, fun control => ?_⟩
  simp only [isPlain, Ascii.isDigit, Bool.or_eq_true, Bool.and_eq_true, decide_eq_true_eq,
    UInt8.le_iff_toNat_le] at plain
  have control := UInt8.lt_iff_toNat_lt.mp control
  simp only [UInt8.toNat_ofNat] at plain control
  omega

/-- A text of letters and digits is read as it is written. -/
theorem textFrom_plain {bs : List UInt8} (plain : ∀ b ∈ bs, isPlain b = true)
    (room : bs.length < n) (read rest : List UInt8) :
    textFrom n read (bs ++ 0x22 :: rest) = .ok (Utf8.repair (read.reverse ++ bs), rest) := by
  induction bs generalizing n read with
  | nil =>
    obtain ⟨n, rfl⟩ := Nat.exists_eq_succ_of_ne_zero (Nat.ne_of_gt room)
    rw [List.append_nil]
    rfl
  | cons b bs ih =>
    obtain ⟨n, rfl⟩ := Nat.exists_eq_succ_of_ne_zero (Nat.ne_of_gt (Nat.zero_lt_of_lt room))
    obtain ⟨letter, others⟩ := List.forall_mem_cons.mp plain
    obtain ⟨quote, escape, control⟩ := isPlain_apart letter
    have next := ih others (Nat.lt_of_succ_lt_succ room) (b :: read)
    rw [List.reverse_cons, List.append_assoc, List.singleton_append] at next
    rw [List.cons_append, textFrom, if_neg (by simp [quote]), if_neg (by simp [escape]),
      if_neg control, next]

/-- A key of letters and digits is read as it is written, if it has not been read before. -/
theorem key_plain (plain : ∀ b ∈ Utf8.bytes k, isPlain b = true)
    (fresh : read.any (·.1 = k) = false) (room : (Utf8.bytes k).length < n) (rest : List UInt8) :
    key n shape read (Utf8.bytes k ++ 0x22 :: 0x3A :: rest) = .ok (k, rest) := by
  have text := textFrom_plain plain room [] (0x3A :: rest)
  rw [List.reverse_nil, List.nil_append, Utf8.repair_bytes] at text
  unfold key
  rw [text]
  simp only [fresh, Bool.and_false, Bool.false_eq_true, if_false]
  rfl

/-- The first member of an object, which the shape does not ask for: it is passed over. -/
theorem members_passed (named : key n shape read more = .ok (k, rest))
    (unasked : shape.under? k = none) (passed : passFrom n [] rest = .ok left) :
    membersFrom (n + 1) depth shape true read (0x22 :: more) =
      membersFrom n depth shape false read left := by
  have quote : skip (0x22 :: more) = 0x22 :: more := rfl
  have opens : is '"' 0x22 = true ∧ is '\x7d' 0x22 = false := ⟨rfl, rfl⟩
  rw [membersFrom]
  simp only [quote, opens, Bool.false_eq_true, if_true, if_false, named, unasked, passed]

/-- A further member, which the shape asks for: it is read and kept. -/
theorem members_read {s : Shape} {j : Json} (named : key n shape read more = .ok (k, rest))
    (asked : shape.under? k = some s) (value : valueFrom n depth s rest = .ok (j, left)) :
    membersFrom (n + 1) depth shape false read (0x2C :: 0x22 :: more) =
      membersFrom n depth shape false ((k, j) :: read) left := by
  have comma : skip (0x2C :: 0x22 :: more) = 0x2C :: 0x22 :: more := rfl
  have quote : skip (0x22 :: more) = 0x22 :: more := rfl
  have opens : is '"' 0x22 = true ∧ is '\x7d' 0x22 = false := ⟨rfl, rfl⟩
  have parts : is ',' 0x2C = true ∧ is '\x7d' 0x2C = false := ⟨rfl, rfl⟩
  rw [membersFrom]
  simp only [comma, quote, opens, parts, Bool.false_eq_true, if_true, if_false, named, asked, value]

end

/-- Behind a brace, `valueFrom` reads members where an object is wanted. -/
theorem value_brace {shape : Shape} (wanted : shape.isObject = true)
    (given : ∀ s, shape ≠ .optional s) (k depth : Nat) (rest : List UInt8) :
    valueFrom (k + 2) (depth + 1) shape (0x7B :: rest) =
      (membersFrom k depth shape true [] rest).map fun (m, r) => (.object m, r) := by
  have brace : skip (0x7B :: rest) = 0x7B :: rest := rfl
  have same : valueFrom (k + 2) (depth + 1) shape (0x7B :: rest) =
      objectFrom (k + 1) (depth + 1) shape 0x7B rest := by
    -- every shape that wants an object leads to `objectFrom`
    rw [valueFrom, brace]
    cases shape with
    | any | table => rfl
    | record manner members => cases manner <;> rfl
    | optional s => exact absurd rfl (given s)
    | scalar | list => cases wanted
  rw [same, objectFrom]

/-- If a text that begins with a brace is read, it is read as an object of members. -/
theorem read_brace {shape : Shape} (wanted : shape.isObject = true)
    (given : ∀ s, shape ≠ .optional s) {s : String} {rest : List UInt8}
    (bytes : Utf8.bytes s = 0x7B :: rest) {j : Json} (h : Json.read shape s = .ok j) :
    ∃ m left, j = .object m ∧
      membersFrom (4 * rest.length + 6) 126 shape true [] rest = .ok (m, left) := by
  -- of the fuel, two steps go to the value and to the brace
  have room : patience (0x7B :: rest) = 4 * rest.length + 6 + 2 := by
    rw [patience, List.length_cons]
    omega
  unfold Json.read at h
  simp only [bytes, room, depthLimit, value_brace wanted given] at h
  cases members : membersFrom (4 * rest.length + 6) 126 shape true [] rest with
  | error stop =>
    rw [members] at h
    cases h
  | ok result =>
    rw [members] at h
    simp only [Except.map] at h
    split at h
    · cases h
      exact ⟨_, _, rfl, rfl⟩
    · cases h

end Reader

end Json

end PodTail
