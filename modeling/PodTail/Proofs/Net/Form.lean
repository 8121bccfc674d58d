import PodTail.Net.Form
import PodTail.Proofs.Text.Cut
import PodTail.Proofs.Text.Utf8

/-!
# Forms are read as they were written

`Form.encode` writes a byte in one of three ways: a plus sign for the blank, the byte itself if it
is plain, and an escape for any other. `decode_encode` is the round trip, byte by byte
(`decode_escape`).

What is written holds neither an `&` nor an `=` (`encode_written`, `isWritten_spec`), so a value
that has been written into a query does not disturb how the query is taken apart. `lookup_pairs` is
the result: the value is found under its key and read as it was, whatever it holds.
-/

set_option autoImplicit false

namespace PodTail

/-- What holds of all bytes can be seen by looking at each. -/
theorem forall_byte {p : UInt8 → Prop} (h : ∀ n, n < 256 → p (UInt8.ofNat n)) (b : UInt8) : p b := by
  have here := h b.toNat (UInt8.toNat_lt b)
  rwa [UInt8.ofNat_toNat] at here

namespace Percent

theorem decode_cons {a : UInt8} (h : a ≠ 0x25) (rest : List UInt8) :
    decode (a :: rest) = a :: decode rest := by
  match rest with
  | [] => rfl
  | [_] => rfl
  | _ :: _ :: _ => rw [decode, if_neg h]

end Percent

namespace Form

/-- A digit of an escape is read back, and is a letter or a digit. -/
theorem digit_spec : ∀ n, n < 16 → Hex.byteValue? (digit n) = some n ∧ isPlain (digit n) = true := by
  decide

/-- The bytes that a form is written with. -/
def isWritten (b : UInt8) : Bool :=
  isPlain b || b = plus || b = 0x25

theorem isPlain_spec : ∀ b : UInt8, isPlain b = true →
    b ≠ 0x25 ∧ b ≠ plus ∧ b ≠ blank :=
  forall_byte (by decide +kernel)

theorem isWritten_spec : ∀ b : UInt8, isWritten b = true →
    b.toNat < 0x80 ∧ b ≠ 0x26 ∧ b ≠ 0x3D ∧ b ≠ 0x23 :=
  forall_byte (by decide +kernel)

theorem escape_written (b : UInt8) : ∀ x ∈ escape b, isWritten x = true := by
  have small := UInt8.toNat_lt b
  intro x mem
  unfold escape at mem
  split at mem
  · rw [List.mem_singleton.mp mem]
    rfl
  split at mem
  next plain =>
    rw [List.mem_singleton.mp mem]
    simp [isWritten, plain]
  next =>
    simp only [List.mem_cons, List.not_mem_nil, or_false] at mem
    rcases mem with rfl | rfl | rfl
    · rfl
    · simp [isWritten, (digit_spec (b.toNat / 16) (by omega)).2]
    · simp [isWritten, (digit_spec (b.toNat % 16) (by omega)).2]

theorem encode_written (bs : List UInt8) : ∀ x ∈ encode bs, isWritten x = true := by
  intro x mem
  obtain ⟨b, _, mem⟩ := List.mem_flatMap.mp mem
  exact escape_written b x mem

/-- A written byte is read back, by the three ways of writing it. -/
theorem decode_escape (b : UInt8) (rest : List UInt8) :
    decode (escape b ++ rest) = b :: decode rest := by
  have small := UInt8.toNat_lt b
  unfold escape
  -- the blank, a plain byte, and any other as two digits
  split
  next same =>
    subst same
    simp only [decode, List.cons_append, List.nil_append, List.map_cons, if_true]
    exact Percent.decode_cons (by decide) _
  split
  next plain =>
    obtain ⟨percent, plus, _⟩ := isPlain_spec b plain
    simp only [decode, List.cons_append, List.nil_append, List.map_cons, if_neg plus]
    exact Percent.decode_cons percent _
  next =>
    obtain ⟨high, plainHigh⟩ := digit_spec (b.toNat / 16) (by omega)
    obtain ⟨low, plainLow⟩ := digit_spec (b.toNat % 16) (by omega)
    simp only [decode, List.cons_append, List.nil_append, List.map_cons,
      if_neg (isPlain_spec _ plainHigh).2.1, if_neg (isPlain_spec _ plainLow).2.1,
      if_neg (show (0x25 : UInt8) ≠ plus by decide)]
    rw [Percent.decode, if_pos rfl, high, low]
    simp only [show b.toNat / 16 * 16 + b.toNat % 16 = b.toNat by omega, UInt8.ofNat_toNat]

theorem decode_encode (bs : List UInt8) : decode (encode bs) = bs := by
  induction bs with
  | nil => rfl
  | cons b bs ih => rw [encode, List.flatMap_cons, decode_escape, ← encode, ih]

/-- The bytes of a written text are those that were written, since all of them are ASCII. -/
theorem bytes_encodeText (s : String) : Utf8.bytes (encodeText s) = encode (Utf8.bytes s) :=
  Utf8.bytes_repair fun b mem => (isWritten_spec b (encode_written _ b mem)).1

theorem decode_plain {bs : List UInt8} (plain : ∀ b ∈ bs, isPlain b = true) : decode bs = bs := by
  induction bs with
  | nil => rfl
  | cons b bs ih =>
    obtain ⟨first, others⟩ := List.forall_mem_cons.mp plain
    obtain ⟨percent, plus, _⟩ := isPlain_spec b first
    rw [decode, List.map_cons, if_neg plus, Percent.decode_cons percent, ← decode, ih others]

/-- The pair that a key and a written value are read as. -/
theorem pairs_cons {key rest : String} (value : String)
    (plain : ∀ b ∈ Utf8.bytes key, isPlain b = true)
    (ends : Utf8.bytes rest = [] ∨ ∃ more, Utf8.bytes rest = 0x26 :: more) :
    ∃ more, pairs ("&" ++ key ++ "=" ++ encodeText value ++ rest) = (key, value) :: more := by
  have written : ∀ b ∈ Utf8.bytes key, isWritten b = true := fun b mem => by
    simp [isWritten, plain b mem]
  have noEquals : (0x3D : UInt8) ∉ Utf8.bytes key := fun mem =>
    (isWritten_spec _ (written _ mem)).2.2.1 rfl
  have noAmpersand : (0x26 : UInt8) ∉
      Utf8.bytes key ++ 0x3D :: encode (Utf8.bytes value) := by
    intro mem
    rcases List.mem_append.mp mem with mem | mem
    · exact (isWritten_spec _ (written _ mem)).2.1 rfl
    rcases List.mem_cons.mp mem with same | mem
    · exact absurd same (by decide)
    · exact (isWritten_spec _ (encode_written _ _ mem)).2.1 rfl
  have whole : Utf8.bytes ("&" ++ key ++ "=" ++ encodeText value ++ rest) =
      [] ++ 0x26 :: (Utf8.bytes key ++ 0x3D :: encode (Utf8.bytes value) ++ Utf8.bytes rest) := by
    simp only [Utf8.bytes_append, bytes_encodeText]
    simp [show Utf8.bytes "&" = [0x26] from rfl, show Utf8.bytes "=" = [0x3D] from rfl]
  -- what stands before the first ampersand is empty, and no pair
  have pieces : ∃ more, Cut.every (0x26 : UInt8)
      (Utf8.bytes key ++ 0x3D :: encode (Utf8.bytes value) ++ Utf8.bytes rest) =
        (Utf8.bytes key ++ 0x3D :: encode (Utf8.bytes value)) :: more := by
    rcases ends with none | ⟨more, some⟩
    · rw [none, List.append_nil, Cut.every_of_not_mem noAmpersand]
      exact ⟨_, rfl⟩
    · rw [some, Cut.every_append noAmpersand]
      exact ⟨_, rfl⟩
  obtain ⟨more, pieces⟩ := pieces
  unfold pairs
  rw [whole, Cut.every_append List.not_mem_nil, pieces, List.filter_cons_of_neg (by simp),
    List.filter_cons_of_pos (by simp), List.map_cons, Cut.first_append noEquals]
  simp only [Option.getD_some, decode_encode, decode_plain plain, Utf8.repair_bytes]
  exact ⟨_, rfl⟩

/-- A value written under a key is found under it. -/
theorem lookup_pairs {key rest : String} (value : String)
    (plain : ∀ b ∈ Utf8.bytes key, isPlain b = true)
    (ends : Utf8.bytes rest = [] ∨ ∃ more, Utf8.bytes rest = 0x26 :: more) :
    (pairs ("&" ++ key ++ "=" ++ encodeText value ++ rest)).lookup key = some value := by
  obtain ⟨more, eq⟩ := pairs_cons value plain ends
  rw [eq, List.lookup_cons_self]

end Form

end PodTail
