import PodTail.Json.Printer

/-!
# A written document stands for one document

`Json.compact` is injective on documents without floating point numbers (`Whole.compact_injective`).

The induction needs more than injectivity, since the text of a part stands in front of more text.
The statement is `Whole.compact_append_inj`: from two texts with something behind them one can read
both the document and what is behind it, provided that what follows cannot go on a number (`Clear`).
Each kind of document has a lemma of this form.

* The kind is told by the first character (`Whole.mark_eq`).
* A text ends at the first quote that is not escaped (`characters_append_inj`, by way of
  `unescape`).
* A number goes as far as there are digits (`toString_append_inj`).
* A list and an object say behind each part whether there are more (`further_inj`, `listed_inj`,
  which take the lemma for the parts as a hypothesis).
-/

set_option autoImplicit false

namespace PodTail

namespace Json

/-! ## Texts -/

/-- The character that some written ones begin with, an escape taken for what it stands for, and
what is behind it; nothing at the end of a text. -/
def unescape : List Char → Option (Char × List Char)
  | [] => none
  | '"' :: _ => none
  | '\\' :: 'u' :: _ :: _ :: a :: b :: rest => do
    let high ← Hex.value? a
    let low ← Hex.value? b
    pure (Char.ofNat (high * 16 + low), rest)
  | '\\' :: 'n' :: rest => some ('\n', rest)
  | '\\' :: 'r' :: rest => some ('\r', rest)
  | '\\' :: 't' :: rest => some ('\t', rest)
  | '\\' :: 'b' :: rest => some (Char.ofNat 8, rest)
  | '\\' :: 'f' :: rest => some (Char.ofNat 12, rest)
  | '\\' :: c :: rest => some (c, rest)
  | c :: rest => some (c, rest)

theorem value?_lower : ∀ n < 16, Hex.value? (Hex.lower n) = some n := by
  decide

/-- What `character` writes is read back by `unescape`, with what is behind it. -/
theorem unescape_character (c : Char) (rest : List Char) :
    unescape (character c ++ rest) = some (c, rest) := by
  have same {n : Nat} (h : c.toNat = n) : Char.ofNat n = c := h ▸ Char.ofNat_toNat c
  unfold character
  split
  · simp_all [unescape]
  split
  · simp_all [unescape]
  split
  · simp_all [unescape]
  split
  · simp_all [unescape]
  split
  · simp_all [unescape]
  split
  · next eight => exact congrArg (fun c => some (c, rest)) (same eight)
  split
  · next twelve => exact congrArg (fun c => some (c, rest)) (same twelve)
  split
  · next control =>
    have high := value?_lower (c.toNat / 16) (by omega)
    have low := value?_lower (c.toNat % 16) (by omega)
    simp [unescape, high, low, same (show c.toNat = c.toNat / 16 * 16 + c.toNat % 16 by omega)]
  · simp_all [unescape]

/-- A text ends at the first quote that is not escaped. -/
theorem characters_append_inj {cs cs' rest rest' : List Char}
    (h : cs.flatMap character ++ '"' :: rest = cs'.flatMap character ++ '"' :: rest') :
    cs = cs' ∧ rest = rest' := by
  -- `unescape` reads one character off both sides, or sees both end
  have next := congrArg unescape h
  induction cs generalizing cs' with
  | nil =>
    cases cs' with
    | nil => exact ⟨rfl, (List.cons.inj h).2⟩
    | cons c' cs' =>
      rw [List.flatMap_cons, List.append_assoc, unescape_character] at next
      exact nomatch next
  | cons c cs ih =>
    rw [List.flatMap_cons, List.append_assoc, unescape_character] at next
    cases cs' with
    | nil => exact nomatch next
    | cons c' cs' =>
      rw [List.flatMap_cons, List.append_assoc, unescape_character, Option.some.injEq,
        Prod.mk.injEq] at next
      obtain ⟨rfl, rfl⟩ := ih next.2 (congrArg unescape next.2)
      exact ⟨by rw [next.1], rfl⟩

theorem toList_quote (s : String) :
    (quote s).toList = '"' :: (s.toList.flatMap character ++ ['"']) := by
  simp [quote]

/-- A quoted text can be told from what follows it. -/
theorem quote_append_inj {s s' : String} {rest rest' : List Char}
    (h : (quote s).toList ++ rest = (quote s').toList ++ rest') : s = s' ∧ rest = rest' := by
  simp only [toList_quote, List.cons_append, List.append_assoc, List.nil_append, List.cons.injEq,
    true_and] at h
  obtain ⟨same, rfl⟩ := characters_append_inj h
  exact ⟨String.toList_inj.mp same, rfl⟩

/-! ## Whole numbers

A number has no closing character, so it can be told from what follows only if that is `Clear`. -/

/-- Whether a character may stand in a whole number. -/
def numeral (c : Char) : Bool :=
  c.isDigit || c = '-'

/-- Text that does not go on a number. -/
def Clear (rest : List Char) : Prop :=
  ∀ c ∈ rest.head?, numeral c = false

theorem clear_nil : Clear [] := by
  simp [Clear]

theorem clear_cons {c : Char} {rest : List Char} (h : numeral c = false) : Clear (c :: rest) := by
  rintro _ ⟨⟩
  exact h

theorem toList_toString (n : Int) :
    (toString n).toList = (if n < 0 then ['-'] else []) ++ Nat.toDigits 10 n.natAbs := by
  cases n with
  | ofNat n => exact Nat.toList_repr
  | negSucc n =>
    show ("-" ++ (n + 1).repr).toList = _
    simp [Nat.toList_repr, Int.negSucc_lt_zero]

theorem isDigit_toDigits {n : Nat} : ∀ c ∈ Nat.toDigits 10 n, c.isDigit = true :=
  fun _ => Nat.isDigit_of_mem_toDigits (by decide) (by decide)

theorem numeral_toString (n : Int) : ∀ c ∈ (toString n).toList, numeral c = true := by
  intro c mem
  rw [toList_toString, List.mem_append] at mem
  rcases mem with sign | digit
  · have : c = '-' := by split at sign <;> simp_all
    simp [numeral, this]
  · simp [numeral, isDigit_toDigits c digit]

theorem takeWhile_toString {rest : List Char} (clear : Clear rest) (n : Int) :
    ((toString n).toList ++ rest).takeWhile numeral = (toString n).toList := by
  have none : rest.takeWhile numeral = [] := by
    cases rest with
    | nil => rfl
    | cons c rest => rw [List.takeWhile_cons, clear c rfl]; rfl
  rw [List.takeWhile_append_of_pos (numeral_toString n), none, List.append_nil]

theorem toDigits_inj {m n : Nat} (h : Nat.toDigits 10 m = Nat.toDigits 10 n) : m = n := by
  rw [← @Nat.ofDigitChars_ten_toDigits m, h, Nat.ofDigitChars_ten_toDigits]

theorem dash_not_mem_toDigits {n : Nat} : '-' ∉ Nat.toDigits 10 n :=
  fun mem => absurd (isDigit_toDigits _ mem) (by decide)

theorem toList_toString_inj {n n' : Int} (h : (toString n).toList = (toString n').toList) :
    n = n' := by
  rw [toList_toString, toList_toString] at h
  -- no digit is a dash, so the signs agree
  split at h <;> split at h
  · have := toDigits_inj (List.cons.inj h).2
    omega
  · exact absurd (show '-' ∈ [] ++ Nat.toDigits 10 n'.natAbs from h ▸ List.mem_cons_self)
      dash_not_mem_toDigits
  · exact absurd (show '-' ∈ [] ++ Nat.toDigits 10 n.natAbs from h ▸ List.mem_cons_self)
      dash_not_mem_toDigits
  · have := toDigits_inj h
    omega

/-- A number can be told from what follows it, as the longest prefix of numerals. -/
theorem toString_append_inj {n n' : Int} {rest rest' : List Char} (clear : Clear rest)
    (clear' : Clear rest') (h : (toString n).toList ++ rest = (toString n').toList ++ rest') :
    n = n' ∧ rest = rest' := by
  have same := congrArg (List.takeWhile numeral) h
  rw [takeWhile_toString clear, takeWhile_toString clear'] at same
  obtain rfl := toList_toString_inj same
  exact ⟨rfl, List.append_cancel_left h⟩

/-! ## Documents -/

/-- A document without floating point numbers. -/
inductive Whole : Json → Prop
  | null : Whole .null
  | bool (b : Bool) : Whole (.bool b)
  | int (n : Int) : Whole (.int n)
  | text (s : String) : Whole (.text s)
  | list {l : List Json} (items : ∀ j ∈ l, Whole j) : Whole (.list l)
  | object {m : List (String × Json)} (members : ∀ e ∈ m, Whole e.2) : Whole (.object m)

/-- The characters of a member. -/
def member (e : String × Json) : List Char :=
  (quote e.1).toList ++ ':' :: e.2.compact.toList

/-- Some pieces of text, each behind a comma, in front of a closing bracket and more text. -/
def further (close : Char) (pieces : List (List Char)) (rest : List Char) : List Char :=
  pieces.flatMap (',' :: ·) ++ close :: rest

/-- Some pieces of text, parted by commas, in front of a closing bracket and more text. -/
def listed (close : Char) (pieces : List (List Char)) (rest : List Char) : List Char :=
  [','].intercalate pieces ++ close :: rest

theorem listed_cons (close : Char) (piece : List Char) (pieces : List (List Char))
    (rest : List Char) : listed close (piece :: pieces) rest = piece ++ further close pieces rest := by
  have join : [','].intercalate (piece :: pieces) = piece ++ pieces.flatMap (',' :: ·) := by
    induction pieces generalizing piece with
    | nil => simp
    | cons next pieces ih => rw [List.intercalate_cons_cons, ih]; simp
  rw [listed, join, List.append_assoc, further]

section

variable {α : Type} {write : α → List Char} {close : Char} {l l' : List α} {rest rest' : List Char}

theorem clear_further (closes : numeral close = false) (pieces : List (List Char)) :
    Clear (further close pieces rest) := by
  cases pieces with
  | nil => exact clear_cons closes
  | cons piece pieces => exact clear_cons (by decide)

/-- Where each of some parts can be told from what follows it, so can the parts of a list. -/
theorem further_inj (apart : close ≠ ',') (closes : numeral close = false)
    (each : ∀ a ∈ l, ∀ a' ∈ l', ∀ rest rest', Clear rest → Clear rest' →
      write a ++ rest = write a' ++ rest' → a = a' ∧ rest = rest')
    (h : further close (l.map write) rest = further close (l'.map write) rest') :
    l = l' ∧ rest = rest' := by
  induction l generalizing l' with
  | nil =>
    cases l' with
    | nil => exact ⟨rfl, (List.cons.inj h).2⟩
    | cons a' l' => exact absurd (List.cons.inj h).1 apart
  | cons a l ih =>
    cases l' with
    | nil => exact absurd (List.cons.inj h).1.symm apart
    | cons a' l' =>
      have first : write a ++ further close (l.map write) rest =
          write a' ++ further close (l'.map write) rest' := by
        simpa [further] using h
      obtain ⟨rfl, others⟩ := each a List.mem_cons_self a' List.mem_cons_self _ _
        (clear_further closes _) (clear_further closes _) first
      obtain ⟨rfl, rfl⟩ :=
        ih (fun a mem a' mem' => each a (.tail _ mem) a' (.tail _ mem')) others
      exact ⟨rfl, rfl⟩

/-- The same for a list in its brackets, where it has to be told first whether there are any parts.
    -/
theorem listed_inj (apart : close ≠ ',') (closes : numeral close = false)
    (opens : ∀ a ∈ l ++ l', ∃ c more, write a = c :: more ∧ c ≠ close)
    (each : ∀ a ∈ l, ∀ a' ∈ l', ∀ rest rest', Clear rest → Clear rest' →
      write a ++ rest = write a' ++ rest' → a = a' ∧ rest = rest')
    (h : listed close (l.map write) rest = listed close (l'.map write) rest') :
    l = l' ∧ rest = rest' := by
  cases l with
  | nil =>
    cases l' with
    | nil => exact ⟨rfl, (List.cons.inj h).2⟩
    | cons a' l' =>
      obtain ⟨c, more, eq, ne⟩ := opens a' (by simp)
      rw [List.map_cons, listed_cons, eq] at h
      exact absurd (List.cons.inj h).1.symm ne
  | cons a l =>
    cases l' with
    | nil =>
      obtain ⟨c, more, eq, ne⟩ := opens a (by simp)
      rw [List.map_cons, listed_cons, eq] at h
      exact absurd (List.cons.inj h).1 ne
    | cons a' l' =>
      refine further_inj apart closes each ?_
      rw [List.map_cons, List.map_cons, listed_cons, listed_cons] at h
      simpa [further] using h

end

theorem compactItems_eq (l : List Json) : compactItems l = l.map compact := by
  induction l with
  | nil => rfl
  | cons j l ih => rw [compactItems, ih, List.map_cons]

theorem compactMembers_toList (m : List (String × Json)) :
    (compactMembers m).map String.toList = m.map member := by
  induction m with
  | nil => rfl
  | cons e m ih =>
    rw [compactMembers, List.map_cons, ih, List.map_cons, member]
    simp

theorem toList_list (l : List Json) (rest : List Char) :
    (Json.list l).compact.toList ++ rest =
      '[' :: listed ']' (l.map fun j => j.compact.toList) rest := by
  simp [compact, compactItems_eq, listed, String.toList_intercalate, Function.comp_def]

theorem toList_object (m : List (String × Json)) (rest : List Char) :
    (Json.object m).compact.toList ++ rest = '\x7b' :: listed '\x7d' (m.map member) rest := by
  simp [compact, listed, String.toList_intercalate, compactMembers_toList]

/-- The kind of document that a text begins with this character of. -/
def opened (c : Char) : Char :=
  if numeral c then '0' else if c = 'f' then 't' else c

/-- What marks a document's kind at the beginning of its text. -/
def mark : Json → Char
  | .null => 'n'
  | .bool _ => 't'
  | .int _ => '0'
  | .float _ => '.'
  | .text _ => '"'
  | .list _ => '['
  | .object _ => '\x7b'

/-- The first character of a document's text tells its `mark`. -/
theorem Whole.head {j : Json} (whole : j.Whole) :
    ∃ c more, j.compact.toList = c :: more ∧ opened c = j.mark := by
  cases whole with
  | null => exact ⟨'n', _, rfl, rfl⟩
  | bool b =>
    cases b with
    | true => exact ⟨'t', _, rfl, rfl⟩
    | false => exact ⟨'f', _, rfl, rfl⟩
  | int n =>
    have numerals := numeral_toString n
    cases text : (toString n).toList with
    | nil =>
      rw [toList_toString] at text
      exact absurd (List.append_eq_nil_iff.mp text).2 Nat.toDigits_ne_nil
    | cons c more => exact ⟨c, more, text, if_pos (numerals c (text ▸ List.mem_cons_self))⟩
  | text s => exact ⟨'"', _, toList_quote s, rfl⟩
  | @list l => exact ⟨'[', _, by simpa using toList_list l [], rfl⟩
  | @object m => exact ⟨'\x7b', _, by simpa using toList_object m [], rfl⟩

/-- Documents whose texts begin alike are of one kind. -/
theorem Whole.mark_eq {j j' : Json} (whole : j.Whole) (whole' : j'.Whole) {rest rest' : List Char}
    (h : j.compact.toList ++ rest = j'.compact.toList ++ rest') : j.mark = j'.mark := by
  obtain ⟨c, more, text, mark⟩ := whole.head
  obtain ⟨c', more', text', mark'⟩ := whole'.head
  rw [text, text'] at h
  rw [← mark, ← mark', (List.cons.inj h).1]

/-- No document begins with a closing bracket. -/
theorem Whole.opens {j : Json} (whole : j.Whole) :
    ∃ c more, j.compact.toList = c :: more ∧ c ≠ ']' := by
  obtain ⟨c, more, text, mark⟩ := whole.head
  refine ⟨c, more, text, ?_⟩
  rintro rfl
  rw [show opened ']' = ']' by decide] at mark
  cases whole <;> simp [Json.mark] at mark

theorem member_opens (e : String × Json) : ∃ c more, member e = c :: more ∧ c ≠ '\x7d' :=
  ⟨'"', _, by rw [member, toList_quote]; rfl, by decide⟩

/-- The text of a document ends where the document does, if what follows cannot go on a number. -/
theorem Whole.compact_append_inj {j j' : Json} (whole : j.Whole) (whole' : j'.Whole)
    {rest rest' : List Char} (clear : Clear rest) (clear' : Clear rest')
    (h : j.compact.toList ++ rest = j'.compact.toList ++ rest') : j = j' ∧ rest = rest' := by
  -- both documents are of one kind, which leaves the cases on the diagonal
  have mark := whole.mark_eq whole' h
  induction whole generalizing j' rest rest' with
  | null =>
    cases whole' with
    | null => exact ⟨rfl, List.append_cancel_left h⟩
    | _ => simp [Json.mark] at mark
  | bool b =>
    cases whole' with
    | bool b' =>
      -- `true` and `false` have the same mark, and differ in their text
      cases b <;> cases b'
      · exact ⟨rfl, List.append_cancel_left h⟩
      · simp [compact] at h
      · simp [compact] at h
      · exact ⟨rfl, List.append_cancel_left h⟩
    | _ => simp [Json.mark] at mark
  | int n =>
    cases whole' with
    | int n' =>
      obtain ⟨rfl, rfl⟩ := toString_append_inj clear clear' h
      exact ⟨rfl, rfl⟩
    | _ => simp [Json.mark] at mark
  | text s =>
    cases whole' with
    | text s' =>
      obtain ⟨rfl, rfl⟩ := quote_append_inj h
      exact ⟨rfl, rfl⟩
    | _ => simp [Json.mark] at mark
  | @list l items ih =>
    cases whole' with
    | @list l' items' =>
      rw [toList_list, toList_list] at h
      obtain ⟨rfl, rfl⟩ := listed_inj (by decide) (by decide)
        (fun j mem => ((List.mem_append.mp mem).elim (items j) (items' j)).opens)
        (fun j mem j' mem' rest rest' clear clear' h =>
          ih j mem (items' j' mem') clear clear' h ((items j mem).mark_eq (items' j' mem') h))
        (List.cons.inj h).2
      exact ⟨rfl, rfl⟩
    | _ => simp [Json.mark] at mark
  | @object m members ih =>
    cases whole' with
    | @object m' members' =>
      rw [toList_object, toList_object] at h
      obtain ⟨rfl, rfl⟩ := listed_inj (by decide) (by decide)
        (fun e _ => member_opens e)
        (fun e mem e' mem' rest rest' clear clear' h => by
          simp only [member, List.append_assoc, List.cons_append] at h
          obtain ⟨key, value⟩ := quote_append_inj h
          have value := (List.cons.inj value).2
          obtain ⟨same, rfl⟩ := ih e mem (members' e' mem') clear clear' value
            ((members e mem).mark_eq (members' e' mem') value)
          exact ⟨Prod.ext key same, rfl⟩)
        (List.cons.inj h).2
      exact ⟨rfl, rfl⟩
    | _ => simp [Json.mark] at mark

/-- Documents without floating point numbers are the same if they are written alike. -/
theorem Whole.compact_injective {j j' : Json} (whole : j.Whole) (whole' : j'.Whole)
    (h : j.compact = j'.compact) : j = j' :=
  (whole.compact_append_inj whole' clear_nil clear_nil (congrArg (·.toList ++ []) h)).1

end Json

end PodTail
