import PodTail.Proofs.Text.Utf8

/-!
# What is made of bytes that are no text

`decode` reads any bytes, and gives `none` for what is no character. `Pieced` specifies this without
the state machine, by the encodings of characters alone: where the bytes go on with a character it
is read, and where they do not, the longest piece that some character begins with is given up as a
whole, or one byte if there is no such piece (`Broken`: a maximal subpart). `pieced_iff` says that
`decode` is the only reading of this kind.

* Uniqueness is `Pieced.unique`. No encoding is a prefix of another, and `Broken` determines its
  piece.
* Existence is `pieced_decode`. The state of the machine stands for the bytes it has read of a
  character (`Reached`). A byte within the state's bounds goes on with some character
  (`Reached.goes_on`, and `Reached.completes` for the last byte), and one outside does not, so the
  machine gives up a piece exactly where it is longest (`Reached.broken`).

A byte of ASCII goes on with no character and is one by itself. So whatever the state, reading
starts afresh behind it (`decode_ascii`), and what is wrong in front of it cannot be seen behind it.
-/

set_option autoImplicit false

namespace PodTail

namespace Utf8

open String (utf8EncodeChar)

/-! ## Pieces that are no character -/

/-- A character begins with these bytes. -/
def Begins (bs : List UInt8) : Prop :=
  ∃ c, bs <+: utf8EncodeChar c

/-- A piece to be given up: no character stands there, and the piece is the longest that some
    character begins with, or a single byte. -/
structure Broken (piece rest : List UInt8) : Prop where
  filled : piece ≠ []
  noChar : ∀ c, ¬ utf8EncodeChar c <+: piece ++ rest
  start : piece.length = 1 ∨ Begins piece
  longest : ∀ b more, rest = b :: more → ¬ Begins (piece ++ [b])

/-- Bytes taken apart into characters, and pieces that are none. -/
inductive Pieced : List UInt8 → List (Option Char) → Prop where
  | nil : Pieced [] []
  | whole (c : Char) {rest : List UInt8} {out : List (Option Char)} (more : Pieced rest out) :
      Pieced (utf8EncodeChar c ++ rest) (some c :: out)
  | broken {piece rest : List UInt8} {out : List (Option Char)} (broken : Broken piece rest)
      (more : Pieced rest out) : Pieced (piece ++ rest) (none :: out)

/-- No two characters begin the same bytes. -/
theorem utf8EncodeChar_append_inj {c c' : Char} {rest rest' : List UInt8}
    (h : utf8EncodeChar c ++ rest = utf8EncodeChar c' ++ rest') : c = c' ∧ rest = rest' := by
  have read := congrArg (decodeFrom none) h
  rw [decodeFrom_char, decodeFrom_char] at read
  obtain rfl : c = c' := Option.some.inj (List.cons.inj read).1
  exact ⟨rfl, List.append_cancel_left h⟩

/-- Of two pieces to be given up at one place neither is longer: a character begins with the longer
    one, so the shorter one would not be the longest. -/
theorem Broken.length_le {piece piece' rest rest' : List UInt8} (h : Broken piece rest)
    (h' : Broken piece' rest') (same : piece ++ rest = piece' ++ rest') :
    piece'.length ≤ piece.length := by
  refine Nat.not_lt.mp fun longer => ?_
  obtain ⟨more, eq⟩ : piece <+: piece' :=
    List.prefix_of_prefix_length_le (List.prefix_append piece rest) (same ▸ List.prefix_append ..)
      (by omega)
  obtain ⟨b, more, rfl⟩ : ∃ b more', more = b :: more' :=
    List.exists_cons_of_ne_nil fun none => by simp [← eq, none] at longer
  have next : rest = b :: (more ++ rest') := by
    rw [← eq, List.append_assoc] at same
    exact List.append_cancel_left same
  have filled := List.length_pos_iff.mpr h.filled
  -- the longer piece is no single byte, so a character begins with it
  obtain ⟨c, begins⟩ := h'.start.resolve_left (by omega)
  refine h.longest b _ next ⟨c, List.IsPrefix.trans ⟨more, ?_⟩ begins⟩
  rw [← eq, List.append_assoc]
  rfl

theorem Broken.unique {piece piece' rest rest' : List UInt8} (h : Broken piece rest)
    (h' : Broken piece' rest') (same : piece ++ rest = piece' ++ rest') : rest = rest' :=
  (List.append_inj same
    (Nat.le_antisymm (h'.length_le h same.symm) (h.length_le h' same))).2

/-- Bytes are `Pieced` in one way only, by cases on how the two readings begin. -/
theorem Pieced.unique {bs : List UInt8} {out out' : List (Option Char)} (h : Pieced bs out)
    (h' : Pieced bs out') : out = out' := by
  -- in each case the two readings begin alike, since the bytes decide how
  induction h generalizing out' with
  | nil =>
    generalize empty : ([] : List UInt8) = bs at h'
    cases h' with
    | nil => rfl
    | whole c => exact absurd (List.append_eq_nil_iff.mp empty.symm).1 String.utf8EncodeChar_ne_nil
    | broken broken => exact absurd (List.append_eq_nil_iff.mp empty.symm).1 broken.filled
  | @whole c rest out more ih =>
    generalize same : utf8EncodeChar c ++ rest = bs at h'
    cases h' with
    | nil => exact absurd (List.append_eq_nil_iff.mp same).1 String.utf8EncodeChar_ne_nil
    | whole c' more' =>
      obtain ⟨rfl, rfl⟩ := utf8EncodeChar_append_inj same
      rw [ih more']
    | broken broken => exact absurd (same ▸ List.prefix_append ..) (broken.noChar c)
  | @broken piece rest out broken more ih =>
    generalize same : piece ++ rest = bs at h'
    cases h' with
    | nil => exact absurd (List.append_eq_nil_iff.mp same).1 broken.filled
    | whole c => exact absurd (same ▸ List.prefix_append ..) (broken.noChar c)
    | broken broken' more' =>
      obtain rfl := broken.unique broken' same
      rw [ih more']

/-! ## What has been read of a character -/

/-- The bytes that have brought the reader from the start of a character to this state. -/
inductive Reached : List UInt8 → Begun → Prop where
  | first {b : UInt8} {p : Begun} (starts : start b = .begun p) : Reached [b] p
  | next {held : List UInt8} {p : Begun} {b : UInt8} {n : Nat} (before : Reached held p)
      (owed : p.owed = n + 1) (within : p.low ≤ b ∧ b ≤ p.high) :
      Reached (held ++ [b]) ⟨n, 0x80, 0xBF, p.value * 64 + (b.toNat - 0x80)⟩

/-- How a first byte of several, by its number, goes on. -/
inductive Leads (n : Nat) : Begun → Prop where
  | two (least : 0xC2 ≤ n) (greatest : n < 0xE0) : Leads n ⟨0, 0x80, 0xBF, n - 0xC0⟩
  | three {low high : UInt8} (least : 0xE0 ≤ n) (greatest : n < 0xF0)
      (room : 0x80 ≤ low.toNat ∧ low.toNat ≤ high.toNat ∧ high.toNat ≤ 0xBF)
      (shortest : n = 0xE0 → 0xA0 ≤ low.toNat) (surrogates : n = 0xED → high.toNat ≤ 0x9F) :
      Leads n ⟨1, low, high, n - 0xE0⟩
  | four {low high : UInt8} (least : 0xF0 ≤ n) (greatest : n ≤ 0xF4)
      (room : 0x80 ≤ low.toNat ∧ low.toNat ≤ high.toNat ∧ high.toNat ≤ 0xBF)
      (shortest : n = 0xF0 → 0x90 ≤ low.toNat) (beyond : n = 0xF4 → high.toNat ≤ 0x8F) :
      Leads n ⟨2, low, high, n - 0xF0⟩

/-- A byte is a character of ASCII, or begins no character, or leads those that `Leads` says. The
    cases are those of `start_ofNat`, from the least byte to the greatest. -/
theorem start_cases (b : UInt8) :
    (b.toNat < 0x80 ∧ start b = .whole (Char.ofNat b.toNat)) ∨ start b = .invalid ∨
      ∃ p, start b = .begun p ∧ Leads b.toNat p := by
  have starts := start_ofNat b.toNat_lt
  rw [UInt8.ofNat_toNat] at starts
  have small : b.toNat < 256 := b.toNat_lt
  rw [starts]
  clear starts
  generalize b.toNat = n at small
  by_cases ascii : n < 0x80
  · exact Or.inl ⟨ascii, if_pos ascii⟩
  refine Or.inr ?_
  rw [if_neg ascii]
  by_cases inner : n < 0xC2
  · exact Or.inl (if_pos inner)
  rw [if_neg inner]
  by_cases two : n < 0xE0
  · exact Or.inr ⟨_, if_pos two, .two (by omega) two⟩
  rw [if_neg two]
  by_cases three : n = 0xE0
  · subst three
    exact Or.inr ⟨_, if_pos rfl, .three (by decide) (by decide) (by decide) (fun _ => by decide)
      (by decide)⟩
  rw [if_neg three]
  by_cases surrogates : n = 0xED
  · subst surrogates
    exact Or.inr ⟨_, if_pos rfl, .three (by decide) (by decide) (by decide) (by decide)
      (fun _ => by decide)⟩
  rw [if_neg surrogates]
  by_cases further : n < 0xF0
  · exact Or.inr ⟨_, if_pos further, .three (by omega) further (by decide) (by omega) (by omega)⟩
  rw [if_neg further]
  by_cases four : n = 0xF0
  · subst four
    exact Or.inr ⟨_, if_pos rfl, .four (by decide) (by decide) (by decide) (fun _ => by decide)
      (by decide)⟩
  rw [if_neg four]
  by_cases beyond : n < 0xF4
  · exact Or.inr ⟨_, if_pos beyond, .four (by omega) (by omega) (by decide) (by omega) (by omega)⟩
  rw [if_neg beyond]
  by_cases last : n = 0xF4
  · subst last
    exact Or.inr ⟨_, if_pos rfl, .four (by decide) (by decide) (by decide) (by decide)
      (fun _ => by decide)⟩
  · exact Or.inl (if_neg last)

theorem leads_of_start {b : UInt8} {p : Begun} (h : start b = .begun p) : Leads b.toNat p := by
  rcases start_cases b with ⟨-, whole⟩ | invalid | ⟨q, begun, leads⟩
  · simp [h] at whole
  · simp [h] at invalid
  · obtain rfl : p = q := by simpa [h] using begun
    exact leads

theorem Leads.room {n : Nat} {p : Begun} (h : Leads n p) :
    0x80 ≤ p.low.toNat ∧ p.low.toNat ≤ p.high.toNat ∧ p.high.toNat ≤ 0xBF ∧ p.owed ≤ 2 := by
  cases h with
  | two => simp
  | three _ _ room | four _ _ room => exact ⟨room.1, room.2.1, room.2.2, by simp⟩

theorem Reached.room {held : List UInt8} {p : Begun} (h : Reached held p) :
    0x80 ≤ p.low.toNat ∧ p.low.toNat ≤ p.high.toNat ∧ p.high.toNat ≤ 0xBF ∧ p.owed ≤ 2 := by
  induction h with
  | first starts => exact (leads_of_start starts).room
  | next _ owed _ ih => exact ⟨by simp, by simp, by simp, by simp only; omega⟩

theorem Reached.filled {held : List UInt8} {p : Begun} (h : Reached held p) : held ≠ [] := by
  cases h <;> simp

/-! ## Whole characters

The machine computes a value from the bytes it is given. These lemmas go back from the value to the
bytes, for two, three and four of them, under the bounds that `Leads` and `Reached.within` supply.
-/

theorem toNat_ofNat_char {n : Nat} (valid : n.isValidChar) : (Char.ofNat n).val.toNat = n := by
  rw [Char.ofNat, dif_pos valid]
  rfl

/-- A byte that is a character by itself is one of ASCII. -/
theorem alone_of_start {b : UInt8} {c : Char} (h : start b = .whole c) : [b] = utf8EncodeChar c := by
  rcases start_cases b with ⟨ascii, whole⟩ | invalid | ⟨q, begun, -⟩
  · obtain rfl : c = Char.ofNat b.toNat := by simpa [h] using whole
    rw [utf8EncodeChar_ascii (by rwa [toNat_charOfNat ascii]), toNat_charOfNat ascii,
      UInt8.ofNat_toNat]
  · simp [h] at invalid
  · simp [h] at begun

theorem encode_two {v a b : Nat} (same : v = (a - 0xC0) * 64 + (b - 0x80))
    (lead : 0xC2 ≤ a ∧ a < 0xE0) (last : 0x80 ≤ b ∧ b ≤ 0xBF) :
    utf8EncodeChar (Char.ofNat v) = [UInt8.ofNat a, UInt8.ofNat b] := by
  have valid : v.isValidChar := Or.inl (by omega)
  simp only [utf8EncodeChar, toNat_ofNat_char valid, if_neg (by omega : ¬ v ≤ 127),
    if_pos (by omega : v ≤ 2047)]
  rw [show v / 64 % 32 + 192 = a by omega, show v % 64 + 128 = b by omega]

theorem encode_three {v a b c : Nat} (same : v = ((a - 0xE0) * 64 + (b - 0x80)) * 64 + (c - 0x80))
    (lead : 0xE0 ≤ a ∧ a < 0xF0) (second : 0x80 ≤ b ∧ b ≤ 0xBF) (shortest : a = 0xE0 → 0xA0 ≤ b)
    (surrogates : a = 0xED → b ≤ 0x9F) (last : 0x80 ≤ c ∧ c ≤ 0xBF) :
    utf8EncodeChar (Char.ofNat v) = [UInt8.ofNat a, UInt8.ofNat b, UInt8.ofNat c] := by
  have valid : v.isValidChar := by
    unfold Nat.isValidChar
    omega
  simp only [utf8EncodeChar, toNat_ofNat_char valid, if_neg (by omega : ¬ v ≤ 127),
    if_neg (by omega : ¬ v ≤ 2047), if_pos (by omega : v ≤ 65535)]
  rw [show v / 4096 % 16 + 224 = a by omega, show v / 64 % 64 + 128 = b by omega,
    show v % 64 + 128 = c by omega]

theorem encode_four {v a b c d : Nat}
    (same : v = (((a - 0xF0) * 64 + (b - 0x80)) * 64 + (c - 0x80)) * 64 + (d - 0x80))
    (lead : 0xF0 ≤ a ∧ a ≤ 0xF4) (second : 0x80 ≤ b ∧ b ≤ 0xBF) (shortest : a = 0xF0 → 0x90 ≤ b)
    (beyond : a = 0xF4 → b ≤ 0x8F) (third : 0x80 ≤ c ∧ c ≤ 0xBF) (last : 0x80 ≤ d ∧ d ≤ 0xBF) :
    utf8EncodeChar (Char.ofNat v) =
      [UInt8.ofNat a, UInt8.ofNat b, UInt8.ofNat c, UInt8.ofNat d] := by
  have valid : v.isValidChar := by
    unfold Nat.isValidChar
    omega
  simp only [utf8EncodeChar, toNat_ofNat_char valid, if_neg (by omega : ¬ v ≤ 127),
    if_neg (by omega : ¬ v ≤ 2047), if_neg (by omega : ¬ v ≤ 65535)]
  rw [show v / 262144 % 8 + 240 = a by omega, show v / 4096 % 64 + 128 = b by omega,
    show v / 64 % 64 + 128 = c by omega, show v % 64 + 128 = d by omega]

/-- A byte that the state lets follow, by its number. -/
theorem Reached.within {held : List UInt8} {p : Begun} {b : UInt8} (h : Reached held p)
    (within : p.low ≤ b ∧ b ≤ p.high) : 0x80 ≤ b.toNat ∧ b.toNat ≤ 0xBF := by
  obtain ⟨least, _, greatest, _⟩ := h.room
  have low := UInt8.le_iff_toNat_le.mp within.1
  have high := UInt8.le_iff_toNat_le.mp within.2
  omega

/-- The last byte that is owed makes the bytes a character. -/
theorem Reached.completes {held : List UInt8} {p : Begun} {b : UInt8} (h : Reached held p)
    (owed : p.owed = 0) (within : p.low ≤ b ∧ b ≤ p.high) :
    held ++ [b] = utf8EncodeChar (Char.ofNat (p.value * 64 + (b.toNat - 0x80))) := by
  have last := h.within within
  -- what has been read is one byte, two or three, and `Leads` says which first bytes these are
  cases h with
  | @first a p starts =>
    cases leads_of_start starts with
    | two least greatest =>
      rw [encode_two rfl ⟨least, greatest⟩ last, UInt8.ofNat_toNat, UInt8.ofNat_toNat]
      rfl
    | three | four => simp at owed
  | @next held p c n before owing next =>
    have third := before.within next
    obtain rfl : n = 0 := owed
    cases before with
    | @first a p starts =>
      cases leads_of_start starts with
      | two | four => simp at owing
      | three least greatest room shortest surrogates =>
        have low := UInt8.le_iff_toNat_le.mp next.1
        have high := UInt8.le_iff_toNat_le.mp next.2
        simp only at low high
        rw [encode_three rfl ⟨least, greatest⟩ third (by omega) (by omega) last, UInt8.ofNat_toNat,
          UInt8.ofNat_toNat, UInt8.ofNat_toNat]
        rfl
    | @next held p d n before owing' next' =>
      have second := before.within next'
      obtain rfl : n = 1 := owing
      cases before with
      | @first a p starts =>
        cases leads_of_start starts with
        | two | three => simp at owing'
        | four least greatest room shortest beyond =>
          have low := UInt8.le_iff_toNat_le.mp next'.1
          have high := UInt8.le_iff_toNat_le.mp next'.2
          simp only at low high
          rw [encode_four rfl ⟨least, greatest⟩ second (by omega) (by omega) third last,
            UInt8.ofNat_toNat, UInt8.ofNat_toNat, UInt8.ofNat_toNat, UInt8.ofNat_toNat]
          rfl
      | next before owing'' =>
        -- no character is longer than four bytes
        have := before.room
        simp only at owing'
        omega

/-- A byte that the state lets follow goes on with some character. -/
theorem Reached.goes_on {held : List UInt8} {p : Begun} {b : UInt8} (h : Reached held p)
    (within : p.low ≤ b ∧ b ≤ p.high) : Begins (held ++ [b]) := by
  -- the character is completed with the least bytes that may follow
  induction owed : p.owed generalizing held p b with
  | zero =>
    rw [h.completes owed within]
    exact ⟨_, List.prefix_rfl⟩
  | succ n ih =>
    have least : (0x80 : UInt8) ≤ 0x80 ∧ (0x80 : UInt8) ≤ 0xBF := by decide
    obtain ⟨c, begins⟩ := ih (h.next owed within) least rfl
    exact ⟨c, (List.prefix_append _ _).trans begins⟩

theorem Reached.begins {held : List UInt8} {p : Begun} (h : Reached held p) : Begins held := by
  obtain ⟨_, room, _⟩ := h.room
  obtain ⟨c, begins⟩ := h.goes_on ⟨UInt8.le_refl p.low, UInt8.le_iff_toNat_le.mpr room⟩
  exact ⟨c, (List.prefix_append _ _).trans begins⟩

/-! ## What the reader gives up -/

/-- To read on from a state is to read the bytes that it stands for first. -/
theorem decodeFrom_reached {held : List UInt8} {p : Begun} (h : Reached held p) (bs : List UInt8) :
    decodeFrom none (held ++ bs) = decodeFrom (some p) bs := by
  induction h generalizing bs with
  | first starts => simp [decodeFrom, step, fresh, starts]
  | next before owed within ih =>
    rw [List.append_assoc, ih]
    simp [decodeFrom, step, within, owed]

/-- Where the reader gives something up, no character stands. -/
theorem noChar_of_decode {bs : List UInt8} {out : List (Option Char)}
    (h : decodeFrom none bs = none :: out) (c : Char) : ¬ utf8EncodeChar c <+: bs := by
  rintro ⟨rest, rfl⟩
  rw [decodeFrom_char] at h
  cases h

/-- Where it does so whatever follows, no character begins. -/
theorem not_begins_of_decode {bs : List UInt8}
    (h : ∀ rest, ∃ out, decodeFrom none (bs ++ rest) = none :: out) : ¬ Begins bs := by
  rintro ⟨c, rest, whole⟩
  obtain ⟨out, gives⟩ := h rest
  exact noChar_of_decode gives c (whole ▸ List.prefix_rfl)

theorem decodeFrom_invalid {b : UInt8} (h : start b = .invalid) (bs : List UInt8) :
    decodeFrom none (b :: bs) = none :: decodeFrom none bs := by
  simp [decodeFrom, step, fresh, h]

/-- A byte that does not go on with what has been read is read afresh. -/
theorem decodeFrom_else {p : Begun} {b : UInt8} (h : ¬ (p.low ≤ b ∧ b ≤ p.high)) (bs : List UInt8) :
    decodeFrom (some p) (b :: bs) = none :: decodeFrom none (b :: bs) := by
  simp [decodeFrom, step, h]

theorem broken_of_invalid {b : UInt8} (h : start b = .invalid) (rest : List UInt8) :
    Broken [b] rest where
  filled := List.cons_ne_nil _ _
  noChar := noChar_of_decode (decodeFrom_invalid h rest)
  start := Or.inl rfl
  longest b' _ _ := not_begins_of_decode fun rest => ⟨_, decodeFrom_invalid h (b' :: rest)⟩

/-- What has been read is a piece to be given up if no byte follows that the state allows. -/
theorem Reached.broken {held : List UInt8} {p : Begun} (h : Reached held p) {rest : List UInt8}
    (ends : ∀ b more, rest = b :: more → ¬ (p.low ≤ b ∧ b ≤ p.high)) : Broken held rest where
  filled := h.filled
  noChar := by
    obtain ⟨out, gives⟩ : ∃ out, decodeFrom (some p) rest = none :: out := by
      cases rest with
      | nil => exact ⟨[], rfl⟩
      | cons b more => exact ⟨_, decodeFrom_else (ends b more rfl) more⟩
    exact noChar_of_decode ((decodeFrom_reached h rest).trans gives)
  start := Or.inr h.begins
  longest b more eq := by
    refine not_begins_of_decode fun later => ⟨decodeFrom none (b :: later), ?_⟩
    rw [List.append_assoc, decodeFrom_reached h]
    exact decodeFrom_else (ends b more eq) later

/-- The invariant of the reading, for the state between characters and for all others at once, since
    each leads to the other. -/
theorem pieced_from (bs : List UInt8) :
    Pieced bs (decodeFrom none bs) ∧
      ∀ held p, Reached held p → Pieced (held ++ bs) (decodeFrom (some p) bs) := by
  induction bs with
  | nil => exact ⟨.nil, fun held p h => .broken (h.broken nofun) .nil⟩
  | cons b bs ih =>
    obtain ⟨between, within⟩ := ih
    -- between characters, by what the byte starts
    have afresh : Pieced (b :: bs) (decodeFrom none (b :: bs)) := by
      cases starts : start b with
      | whole c =>
        have read : decodeFrom none (b :: bs) = some c :: decodeFrom none bs := by
          simp [decodeFrom, step, fresh, starts]
        rw [read, ← List.singleton_append, alone_of_start starts]
        exact .whole c between
      | begun p =>
        rw [← List.singleton_append, decodeFrom_reached (.first starts)]
        exact within [b] p (.first starts)
      | invalid =>
        rw [decodeFrom_invalid starts]
        exact .broken (broken_of_invalid starts bs) between
    refine ⟨afresh, fun held p h => ?_⟩
    -- within a character, by whether the byte goes on with it
    by_cases goes : p.low ≤ b ∧ b ≤ p.high
    · cases owed : p.owed with
      | zero =>
        have read : decodeFrom (some p) (b :: bs) =
            some (Char.ofNat (p.value * 64 + (b.toNat - 0x80))) :: decodeFrom none bs := by
          simp [decodeFrom, step, goes, owed]
        rw [read, List.append_cons, h.completes owed goes]
        exact .whole _ between
      | succ n =>
        have next := h.next owed goes
        rw [← decodeFrom_reached h, List.append_cons, decodeFrom_reached next]
        exact within _ _ next
    · rw [decodeFrom_else goes]
      refine .broken (h.broken fun b' more eq => ?_) afresh
      obtain ⟨rfl, _⟩ := List.cons.inj eq
      exact goes

theorem pieced_decode (bs : List UInt8) : Pieced bs (decode bs) :=
  (pieced_from bs).1

/-- **`decode` is specified by `Pieced`.** -/
theorem pieced_iff {bs : List UInt8} {out : List (Option Char)} :
    Pieced bs out ↔ out = decode bs :=
  ⟨fun h => h.unique (pieced_decode bs), fun h => h ▸ pieced_decode bs⟩

/-! ## ASCII -/

theorem fresh_ascii {b : UInt8} (ascii : b.toNat < 0x80) :
    fresh b = (none, [some (Char.ofNat b.toNat)]) := by
  simp [fresh, start, UInt8.lt_iff_toNat_lt, ascii]

/-- The state allows no byte below `0x80`. It holds of every state that the machine reaches
    (`alert_step`). -/
def Alert (s : State) : Prop :=
  ∀ p, s = some p → 0x80 ≤ p.low.toNat

theorem alert_fresh (b : UInt8) : Alert (fresh b).1 := by
  intro p reads
  unfold fresh at reads
  split at reads
  next => cases reads
  next starts => exact Option.some.inj reads ▸ (leads_of_start starts).room.1
  next => cases reads

theorem alert_step {s : State} (b : UInt8) : Alert (step s b).1 := by
  cases s with
  | none => exact alert_fresh b
  | some p =>
    simp only [step]
    split
    · split
      · intro q reads
        cases reads
      · intro q reads
        cases reads
        exact Nat.le_refl _
    · exact alert_fresh b

/-- A byte of ASCII ends whatever was begun and is read as itself. -/
theorem step_ascii {s : State} (alert : Alert s) {b : UInt8} (ascii : b.toNat < 0x80) :
    step s b = (none, decodeFrom s [] ++ [some (Char.ofNat b.toNat)]) := by
  cases s with
  | none => exact fresh_ascii ascii
  | some p =>
    have out : ¬ (p.low ≤ b ∧ b ≤ p.high) := by
      rintro ⟨least, _⟩
      have := alert p rfl
      have := UInt8.le_iff_toNat_le.mp least
      omega
    rw [step, if_neg out, fresh_ascii ascii]
    rfl

theorem decodeFrom_ascii {s : State} (alert : Alert s) (before : List UInt8) {b : UInt8}
    (ascii : b.toNat < 0x80) (rest : List UInt8) :
    decodeFrom s (before ++ b :: rest) =
      decodeFrom s before ++ some (Char.ofNat b.toNat) :: decodeFrom none rest := by
  induction before generalizing s with
  | nil =>
    rw [List.nil_append, decodeFrom.eq_2, step_ascii alert ascii, List.append_assoc]
    rfl
  | cons a before ih =>
    rw [List.cons_append, decodeFrom, ih (alert_step a), decodeFrom, List.append_assoc]

/-- Behind a byte of ASCII the reading starts afresh, and the byte is read as itself. -/
theorem decode_ascii (before : List UInt8) {b : UInt8} (ascii : b.toNat < 0x80)
    (rest : List UInt8) :
    decode (before ++ b :: rest) = decode before ++ some (Char.ofNat b.toNat) :: decode rest :=
  decodeFrom_ascii (by simp [Alert]) before ascii rest

/-- A character that is read has its bytes among those that are read. -/
theorem Pieced.mem {bs : List UInt8} {out : List (Option Char)} (h : Pieced bs out) {c : Char}
    (mem : some c ∈ out) {b : UInt8} (byte : b ∈ utf8EncodeChar c) : b ∈ bs := by
  induction h with
  | nil => cases mem
  | whole c' more ih =>
    rcases List.mem_cons.mp mem with same | mem
    · cases same
      exact List.mem_append_left _ byte
    · exact List.mem_append_right _ (ih mem)
  | broken broken more ih =>
    rcases List.mem_cons.mp mem with same | mem
    · cases same
    · exact List.mem_append_right _ (ih mem)

theorem Pieced.nil_iff {bs : List UInt8} {out : List (Option Char)} (h : Pieced bs out) :
    out = [] ↔ bs = [] := by
  cases h with
  | nil => simp
  | whole c more => simp
  | broken broken more => simp [broken.filled]

/-- What is read last has its bytes at the end. -/
theorem Pieced.last {bs : List UInt8} {out : List (Option Char)} (h : Pieced bs out) {c : Char}
    (last : out.getLast? = some (some c)) : utf8EncodeChar c <:+ bs := by
  induction h with
  | nil => cases last
  | @whole c' rest out more ih =>
    cases out with
    | nil =>
      rw [more.nil_iff.mp rfl, List.append_nil]
      cases last
      exact List.suffix_rfl
    | cons o out =>
      rw [List.getLast?_cons_cons] at last
      exact (ih last).trans (List.suffix_append ..)
  | @broken piece rest out broken more ih =>
    cases out with
    | nil => cases last
    | cons o out =>
      rw [List.getLast?_cons_cons] at last
      exact (ih last).trans (List.suffix_append ..)

/-! ## The repaired text -/

theorem toList_repair (bs : List UInt8) :
    (repair bs).toList = (decode bs).map (·.getD replacement) := by
  rw [repair, String.toList_ofList]

theorem toList_repair_ascii (before : List UInt8) {b : UInt8} (ascii : b.toNat < 0x80)
    (rest : List UInt8) :
    (repair (before ++ b :: rest)).toList =
      (repair before).toList ++ Char.ofNat b.toNat :: (repair rest).toList := by
  simp [toList_repair, decode_ascii before ascii]

theorem toList_repair_eq_nil {bs : List UInt8} : (repair bs).toList = [] ↔ bs = [] := by
  rw [toList_repair, List.map_eq_nil_iff]
  exact (pieced_decode bs).nil_iff

theorem ne_replacement {c : Char} (ascii : c.toNat < 0x80) : c ≠ replacement := by
  rintro rfl
  exact absurd ascii (by decide)

/-- A character of ASCII in the repaired text is a byte of it. -/
theorem mem_of_mem_repair {bs : List UInt8} {c : Char} (ascii : c.toNat < 0x80)
    (mem : c ∈ (repair bs).toList) : UInt8.ofNat c.toNat ∈ bs := by
  rw [toList_repair] at mem
  obtain ⟨o, read, eq⟩ := List.mem_map.mp mem
  cases o with
  | none => exact absurd eq.symm (ne_replacement ascii)
  | some c' =>
    obtain rfl : c' = c := eq
    refine (pieced_decode bs).mem read ?_
    rw [utf8EncodeChar_ascii ascii]
    exact List.mem_singleton_self _

/-- A repaired text ends in a character of ASCII only if its bytes do. -/
theorem getLast_of_repair {bs : List UInt8} {c : Char} (ascii : c.toNat < 0x80)
    (last : (repair bs).toList.getLast? = some c) : bs.getLast? = some (UInt8.ofNat c.toNat) := by
  rw [toList_repair, List.getLast?_map] at last
  obtain ⟨o, read, eq⟩ := Option.map_eq_some_iff.mp last
  cases o with
  | none => exact absurd eq.symm (ne_replacement ascii)
  | some c' =>
    obtain rfl : c' = c := eq
    obtain ⟨before, whole⟩ := (pieced_decode bs).last read
    rw [utf8EncodeChar_ascii ascii] at whole
    rw [← whole, List.getLast?_concat]

end Utf8

end PodTail
