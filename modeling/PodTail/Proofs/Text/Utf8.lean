import PodTail.Text.Utf8

/-!
# Texts and their bytes

`Utf8.decodeFrom` is a state machine that takes one byte at a time, and `Utf8.bytes` writes a text
with the encoding of `String`. `repair_bytes` is the round trip: the bytes of a text are read as the
text. Its core is `decodeFrom_char`, for one character of one to four bytes, where `start_ofNat` and
`step_ofNat` restate the machine on numbers so that the arithmetic is left to `omega`. Texts follow
by induction (`decode_encode`).

The second half is about ASCII. Such a character is one byte, below `0x80`, and no other character
has such a byte in its encoding (`toNat_of_mem_utf8EncodeChar`). So a byte below `0x80` is among the
bytes of a text exactly if its character is in the text.
-/

set_option autoImplicit false

namespace PodTail

namespace Utf8

/-! ## Writing -/

@[simp]
theorem encode_append (cs ds : List Char) : encode (cs ++ ds) = encode cs ++ encode ds :=
  List.flatMap_append

@[simp]
theorem bytes_append (s t : String) : bytes (s ++ t) = bytes s ++ bytes t := by
  rw [bytes, String.toList_append, encode_append]
  rfl

@[simp]
theorem bytes_ofList (cs : List Char) : bytes (String.ofList cs) = encode cs := by
  rw [bytes, String.toList_ofList]

/-! ## One byte -/

theorem toNat_ofNat {n : Nat} (small : n < 256) : (UInt8.ofNat n).toNat = n :=
  UInt8.toNat_ofNat_of_lt small

/-- `start` on a byte that is given as a number, with the bounds as numbers too. -/
theorem start_ofNat {n : Nat} (small : n < 256) :
    start (UInt8.ofNat n) =
      if n < 0x80 then .whole (Char.ofNat n)
      else if n < 0xC2 then .invalid
      else if n < 0xE0 then .begun ⟨0, 0x80, 0xBF, n - 0xC0⟩
      else if n = 0xE0 then .begun ⟨1, 0xA0, 0xBF, 0⟩
      else if n = 0xED then .begun ⟨1, 0x80, 0x9F, 0xD⟩
      else if n < 0xF0 then .begun ⟨1, 0x80, 0xBF, n - 0xE0⟩
      else if n = 0xF0 then .begun ⟨2, 0x90, 0xBF, 0⟩
      else if n < 0xF4 then .begun ⟨2, 0x80, 0xBF, n - 0xF0⟩
      else if n = 0xF4 then .begun ⟨2, 0x80, 0x8F, 4⟩
      else .invalid := by
  simp only [start, UInt8.lt_iff_toNat_lt, ← UInt8.toNat_inj, toNat_ofNat small]
  rfl

theorem decodeFrom_begun {n : Nat} {p : Begun} (h : start (UInt8.ofNat n) = .begun p)
    (rest : List UInt8) : decodeFrom none (UInt8.ofNat n :: rest) = decodeFrom (some p) rest := by
  simp [decodeFrom, step, fresh, h]

theorem step_ofNat {owed low high value n : Nat} (small : high < 256) (least : low ≤ n)
    (greatest : n ≤ high) :
    step (some ⟨owed, UInt8.ofNat low, UInt8.ofNat high, value⟩) (UInt8.ofNat n) =
      match owed with
      | 0 => (none, [some (Char.ofNat (value * 64 + (n - 0x80)))])
      | m + 1 => (some ⟨m, 0x80, 0xBF, value * 64 + (n - 0x80)⟩, []) := by
  have within : UInt8.ofNat low ≤ UInt8.ofNat n ∧ UInt8.ofNat n ≤ UInt8.ofNat high := by
    rw [UInt8.le_iff_toNat_le, UInt8.le_iff_toNat_le, toNat_ofNat small,
      toNat_ofNat (by omega : n < 256), toNat_ofNat (by omega : low < 256)]
    exact ⟨least, greatest⟩
  cases owed with
  | zero => simp only [step, if_pos within, toNat_ofNat (by omega : n < 256)]
  | succ m => simp only [step, if_pos within, toNat_ofNat (by omega : n < 256)]

theorem decodeFrom_last {value n : Nat} (least : 0x80 ≤ n) (greatest : n ≤ 0xBF)
    (rest : List UInt8) :
    decodeFrom (some ⟨0, 0x80, 0xBF, value⟩) (UInt8.ofNat n :: rest) =
      some (Char.ofNat (value * 64 + (n - 0x80))) :: decodeFrom none rest := by
  have read : step (some ⟨0, UInt8.ofNat 0x80, UInt8.ofNat 0xBF, value⟩) (UInt8.ofNat n) = _ :=
    step_ofNat (by decide) least greatest
  rw [decodeFrom, show (0x80 : UInt8) = UInt8.ofNat 0x80 from rfl,
    show (0xBF : UInt8) = UInt8.ofNat 0xBF from rfl, read]
  rfl

theorem decodeFrom_next {owed low high value n : Nat} (small : high < 256) (least : low ≤ n)
    (greatest : n ≤ high) (rest : List UInt8) :
    decodeFrom (some ⟨owed + 1, UInt8.ofNat low, UInt8.ofNat high, value⟩)
        (UInt8.ofNat n :: rest) =
      decodeFrom (some ⟨owed, 0x80, 0xBF, value * 64 + (n - 0x80)⟩) rest := by
  rw [decodeFrom, step_ofNat small least greatest]
  rfl

/-! ## One character -/

theorem decodeFrom_two {low high value m n v : Nat} (small : high < 256) (least : low ≤ m)
    (greatest : m ≤ high) (last : n < 64) (same : (value * 64 + (m - 0x80)) * 64 + n = v)
    (rest : List UInt8) :
    decodeFrom (some ⟨1, UInt8.ofNat low, UInt8.ofNat high, value⟩)
        (UInt8.ofNat m :: UInt8.ofNat (n + 128) :: rest) =
      some (Char.ofNat v) :: decodeFrom none rest := by
  have next : decodeFrom (some ⟨1, UInt8.ofNat low, UInt8.ofNat high, value⟩)
        (UInt8.ofNat m :: UInt8.ofNat (n + 128) :: rest) =
      decodeFrom (some ⟨0, 0x80, 0xBF, value * 64 + (m - 0x80)⟩) (UInt8.ofNat (n + 128) :: rest) :=
    decodeFrom_next small least greatest _
  rw [next, decodeFrom_last (by omega) (by omega),
    show (value * 64 + (m - 0x80)) * 64 + (n + 128 - 0x80) = v by omega]

/-- The first byte of three, and what it lets follow: `E0` and `ED` let less. -/
theorem start_three {v : Nat} (least : 0x800 ≤ v) (small : v < 0x10000)
    (valid : v < 0xD800 ∨ 0xDFFF < v) :
    ∃ low high, start (UInt8.ofNat (v / 4096 % 16 + 224)) =
        .begun ⟨1, UInt8.ofNat low, UInt8.ofNat high, v / 4096⟩ ∧
      high < 256 ∧ low ≤ v / 64 % 64 + 128 ∧ v / 64 % 64 + 128 ≤ high := by
  rw [start_ofNat (by omega), if_neg (by omega), if_neg (by omega), if_neg (by omega)]
  -- `E0` excludes what two bytes would do for, and `ED` the surrogates
  by_cases first : v / 4096 = 0
  · rw [if_pos (by omega), first]
    exact ⟨0xA0, 0xBF, rfl, by omega, by omega, by omega⟩
  rw [if_neg (by omega)]
  by_cases surrogates : v / 4096 = 0xD
  · rw [if_pos (by omega), surrogates]
    exact ⟨0x80, 0x9F, rfl, by omega, by omega, by omega⟩
  rw [if_neg (by omega), if_pos (by omega), show v / 4096 % 16 + 224 - 0xE0 = v / 4096 by omega]
  exact ⟨0x80, 0xBF, rfl, by omega, by omega, by omega⟩

/-- The first byte of four, and what it lets follow: `F0` and `F4` let less. -/
theorem start_four {v : Nat} (least : 0x10000 ≤ v) (small : v < 0x110000) :
    ∃ low high, start (UInt8.ofNat (v / 262144 % 8 + 240)) =
        .begun ⟨2, UInt8.ofNat low, UInt8.ofNat high, v / 262144⟩ ∧
      high < 256 ∧ low ≤ v / 4096 % 64 + 128 ∧ v / 4096 % 64 + 128 ≤ high := by
  rw [start_ofNat (by omega), if_neg (by omega), if_neg (by omega), if_neg (by omega),
    if_neg (by omega), if_neg (by omega), if_neg (by omega)]
  -- `F0` excludes what three bytes would do for, and `F4` what is beyond the last character
  by_cases first : v / 262144 = 0
  · rw [if_pos (by omega), first]
    exact ⟨0x90, 0xBF, rfl, by omega, by omega, by omega⟩
  rw [if_neg (by omega)]
  by_cases last : v / 262144 = 4
  · rw [if_neg (by omega), if_pos (by omega), last]
    exact ⟨0x80, 0x8F, rfl, by omega, by omega, by omega⟩
  rw [if_pos (by omega), show v / 262144 % 8 + 240 - 0xF0 = v / 262144 by omega]
  exact ⟨0x80, 0xBF, rfl, by omega, by omega, by omega⟩

/-- **The bytes of a character are read as the character**, and the machine is between characters
    again. The cases are those of the encoding: one, two, three and four bytes. -/
theorem decodeFrom_char (c : Char) (rest : List UInt8) :
    decodeFrom none (String.utf8EncodeChar c ++ rest) = some c :: decodeFrom none rest := by
  have valid : c.val.toNat < 0xD800 ∨ 0xDFFF < c.val.toNat ∧ c.val.toNat < 0x110000 := c.valid
  have back : Char.ofNat c.val.toNat = c := Char.ofNat_toNat c
  unfold String.utf8EncodeChar
  generalize c.val.toNat = v at valid back
  subst back
  simp only
  split
  next one =>
    simp only [List.cons_append, List.nil_append, decodeFrom, step, fresh,
      start_ofNat (by omega : v < 256), if_pos (by omega : v < 0x80)]
  split
  next two =>
    have starts : start (UInt8.ofNat (v / 64 % 32 + 192)) = .begun ⟨0, 0x80, 0xBF, v / 64⟩ := by
      rw [start_ofNat (by omega), if_neg (by omega), if_neg (by omega), if_pos (by omega),
        show v / 64 % 32 + 192 - 0xC0 = v / 64 by omega]
    simp only [List.cons_append, List.nil_append]
    rw [decodeFrom_begun starts, decodeFrom_last (by omega) (by omega),
      show v / 64 * 64 + (v % 64 + 128 - 0x80) = v by omega]
  split
  next three =>
    obtain ⟨low, high, starts, small, least, greatest⟩ :=
      start_three (v := v) (by omega) (by omega) (by omega)
    simp only [List.cons_append, List.nil_append]
    rw [decodeFrom_begun starts]
    exact decodeFrom_two small least greatest (by omega) (by omega) rest
  next four =>
    obtain ⟨low, high, starts, small, least, greatest⟩ := start_four (v := v) (by omega) (by omega)
    simp only [List.cons_append, List.nil_append]
    rw [decodeFrom_begun starts, decodeFrom_next small least greatest]
    exact @decodeFrom_two 0x80 0xBF _ (v / 64 % 64 + 128) (v % 64) v (by decide) (by omega)
      (by omega) (by omega) (by omega) rest

/-! ## Texts -/

theorem decode_encode (cs : List Char) : decode (encode cs) = cs.map some := by
  induction cs with
  | nil => rfl
  | cons c cs ih =>
    rw [encode, List.flatMap_cons, decode, decodeFrom_char]
    exact congrArg (some c :: ·) ih

/-- The round trip: a text is read as it was written. -/
@[simp]
theorem repair_bytes (s : String) : repair (bytes s) = s := by
  rw [repair, bytes, decode_encode, List.map_map]
  simp [Function.comp_def]

theorem bytes_injective {s t : String} (h : bytes s = bytes t) : s = t := by
  rw [← repair_bytes s, h, repair_bytes]

/-! ## ASCII -/

/-- A character of ASCII is one byte. -/
theorem utf8EncodeChar_ascii {c : Char} (ascii : c.toNat < 0x80) :
    String.utf8EncodeChar c = [UInt8.ofNat c.toNat] := by
  have least : c.val.toNat ≤ 127 := Nat.le_of_lt_succ ascii
  simp only [String.utf8EncodeChar, if_pos least]
  rfl

theorem ofNat_mem_bytes {s : String} {c : Char} (mem : c ∈ s.toList) (ascii : c.toNat < 0x80) :
    UInt8.ofNat c.toNat ∈ bytes s := by
  refine List.mem_flatMap.mpr ⟨c, mem, ?_⟩
  rw [utf8EncodeChar_ascii ascii]
  exact List.mem_singleton_self _

/-- A byte of ASCII is among the bytes of a character only if it is that character. -/
theorem toNat_of_mem_utf8EncodeChar {c : Char} {b : UInt8} (mem : b ∈ String.utf8EncodeChar c)
    (ascii : b.toNat < 0x80) : c.toNat = b.toNat := by
  -- every byte of a longer encoding is `UInt8.ofNat` of a number from `0x80` on
  have lead : ∀ n, 0x80 ≤ n → n < 256 → b ≠ UInt8.ofNat n := by
    rintro n least small rfl
    rw [toNat_ofNat small] at ascii
    omega
  have valid : c.val.toNat < 0x110000 := by
    rcases c.valid with h | h
    · exact Nat.lt_trans h (by decide)
    · exact h.2
  unfold String.utf8EncodeChar at mem
  simp only at mem
  split at mem
  next one =>
    rw [List.mem_singleton.mp mem, toNat_ofNat (by omega)]
    rfl
  split at mem
  next =>
    simp only [List.mem_cons, List.not_mem_nil, or_false] at mem
    rcases mem with same | same <;> exact absurd same (lead _ (by omega) (by omega))
  split at mem
  next =>
    simp only [List.mem_cons, List.not_mem_nil, or_false] at mem
    rcases mem with same | same | same <;> exact absurd same (lead _ (by omega) (by omega))
  next =>
    simp only [List.mem_cons, List.not_mem_nil, or_false] at mem
    rcases mem with same | same | same | same <;> exact absurd same (lead _ (by omega) (by omega))

/-- A byte of ASCII is among the bytes of a text only where its character is in the text. -/
theorem ofNat_mem_of_mem_bytes {s : String} {b : UInt8} (mem : b ∈ bytes s)
    (ascii : b.toNat < 0x80) : Char.ofNat b.toNat ∈ s.toList := by
  obtain ⟨c, found, mem⟩ := List.mem_flatMap.mp mem
  rw [← toNat_of_mem_utf8EncodeChar mem ascii, Char.ofNat_toNat]
  exact found

/-- A text whose bytes end in a byte of ASCII ends in its character. -/
theorem getLast_of_bytes {s : String} {before : List UInt8} {b : UInt8}
    (h : bytes s = before ++ [b]) (ascii : b.toNat < 0x80) :
    s.toList.getLast? = some (Char.ofNat b.toNat) := by
  have some' : s.toList ≠ [] := by
    intro none
    rw [bytes, none] at h
    simp [encode] at h
  -- the last byte is one of the last character's
  have last := List.dropLast_concat_getLast some'
  rw [bytes, ← last, encode_append] at h
  have final : encode [s.toList.getLast some'] = String.utf8EncodeChar (s.toList.getLast some') :=
    List.append_nil _
  have filled : String.utf8EncodeChar (s.toList.getLast some') ≠ [] := by
    rw [← List.length_pos_iff, String.length_utf8EncodeChar]
    exact Char.utf8Size_pos _
  have mem : b ∈ String.utf8EncodeChar (s.toList.getLast some') := by
    rw [final, ← List.dropLast_concat_getLast filled, ← List.append_assoc] at h
    rw [← (List.append_singleton_inj.mp h).2]
    exact List.getLast_mem filled
  rw [List.getLast?_eq_some_getLast some', ← toNat_of_mem_utf8EncodeChar mem ascii, Char.ofNat_toNat]

theorem encode_ascii {cs : List Char} (ascii : ∀ c ∈ cs, c.toNat < 0x80) :
    encode cs = cs.map fun c => UInt8.ofNat c.toNat := by
  induction cs with
  | nil => rfl
  | cons c cs ih =>
    obtain ⟨first, others⟩ := List.forall_mem_cons.mp ascii
    rw [encode, List.flatMap_cons, utf8EncodeChar_ascii first, ← encode, ih others]
    rfl

theorem toNat_charOfNat {n : Nat} (ascii : n < 0x80) : (Char.ofNat n).toNat = n := by
  have valid : n.isValidChar := Or.inl (Nat.lt_trans ascii (by decide))
  rw [Char.ofNat, dif_pos valid]
  rfl

/-- Bytes of ASCII are the bytes of the text that is read from them. -/
theorem bytes_repair {bs : List UInt8} (ascii : ∀ b ∈ bs, b.toNat < 0x80) :
    bytes (repair bs) = bs := by
  have same : encode (bs.map fun b => Char.ofNat b.toNat) = bs := by
    rw [encode_ascii, List.map_map]
    · refine (List.map_congr_left fun b mem => ?_).trans (List.map_id bs)
      rw [Function.comp_apply, toNat_charOfNat (ascii b mem), UInt8.ofNat_toNat, id_eq]
    · intro c mem
      obtain ⟨b, found, rfl⟩ := List.mem_map.mp mem
      rw [toNat_charOfNat (ascii b found)]
      exact ascii b found
  rw [← same, ← bytes_ofList, repair_bytes]

/-- A test holds of all bytes of a text if it holds of its characters of ASCII and of all bytes from
    `0x80` on. -/
theorem all_bytes {s : String} {p : UInt8 → Bool} (beyond : ∀ b : UInt8, 0x80 ≤ b.toNat → p b = true)
    (chars : ∀ c ∈ s.toList, c.toNat < 0x80 → p (UInt8.ofNat c.toNat) = true) :
    (bytes s).all p = true := by
  rw [List.all_eq_true]
  intro b mem
  by_cases ascii : b.toNat < 0x80
  · have found := chars _ (ofNat_mem_of_mem_bytes mem ascii)
    rw [toNat_charOfNat ascii, UInt8.ofNat_toNat] at found
    exact found ascii
  · exact beyond b (by omega)

end Utf8

end PodTail
