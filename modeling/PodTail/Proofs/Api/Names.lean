import PodTail.Proofs.Api.Address

/-!
# Names that addresses admit

`PodTail.Proofs.Api.Address` leaves open whether a request is sent at all. Namespaces and pods are
named by small letters, digits, dots and dashes (`Name`). Such a name is a `Piece`, and every
address made of such names is admitted (`admitted_of_names`), so that the only thing that can keep a
request from being sent is its length: `target_of_names` and `target_too_long`.

The facts about single bytes and characters are decided for all of them at once, by `forall_byte`
and `forall_ascii`.
-/

set_option autoImplicit false

namespace PodTail

namespace Api

/-! ## Alphabets

`Over alphabet s` is decidable, so that it can be checked for given names. -/

/-- A text of at least one character, all out of an alphabet. -/
structure Over (alphabet : Char → Bool) (s : String) : Prop where
  some : s ≠ ""
  chars : ∀ c ∈ s.toList, alphabet c = true

theorem over_iff {alphabet : Char → Bool} {s : String} :
    Over alphabet s ↔ s ≠ "" ∧ s.toList.all alphabet = true :=
  ⟨fun h => ⟨h.some, List.all_eq_true.mpr h.chars⟩, fun h => ⟨h.1, List.all_eq_true.mp h.2⟩⟩

instance (alphabet : Char → Bool) (s : String) : Decidable (Over alphabet s) :=
  decidable_of_iff _ over_iff.symm

theorem Over.not_mem {alphabet : Char → Bool} {s : String} (h : Over alphabet s) {c : Char}
    (other : alphabet c = false) : c ∉ s.toList := by
  intro mem
  rw [h.chars c mem] at other
  cases other

/-- The characters of the names of namespaces and pods. -/
def isNameChar (c : Char) : Bool :=
  c.isLower || c.isDigit || c = '.' || c = '-'

/-- The characters of the keys and values of labels. -/
def isLabelChar (c : Char) : Bool :=
  c.isAlphanum || c = '.' || c = '_' || c = '/' || c = '-'

/-- The name of a namespace or a pod. -/
abbrev Name : String → Prop := Over isNameChar

/-- The key or the value of a label. -/
abbrev Label : String → Prop := Over isLabelChar

theorem Over.piece {s : String} (name : Name s) : Piece s where
  slash := name.not_mem (by decide)
  query := name.not_mem (by decide)
  fragment := name.not_mem (by decide)

/-! ## Admitted bytes

An address admits all bytes from `0x80` on, so for a text it is its characters of ASCII that matter
(`Utf8.all_bytes`). -/

/-- What holds of the characters of ASCII can be seen by looking at each. -/
theorem forall_ascii {p : Char → Prop} (h : ∀ n, n < 0x80 → p (Char.ofNat n)) (c : Char)
    (ascii : c.toNat < 0x80) : p c := by
  have here := h c.toNat ascii
  rwa [Char.ofNat_toNat] at here

theorem inPath_beyond : ∀ b : UInt8, 0x80 ≤ b.toNat → Uri.inPath b = true :=
  forall_byte (by decide +kernel)

theorem inQuery_beyond : ∀ b : UInt8, 0x80 ≤ b.toNat → Uri.inQuery b = true :=
  forall_byte (by decide +kernel)

theorem inQuery_written : ∀ b : UInt8, Form.isWritten b = true → Uri.inQuery b = true :=
  forall_byte (by decide +kernel)

theorem Over.inPath {s : String} (name : Name s) : (Utf8.bytes s).all Uri.inPath = true :=
  Utf8.all_bytes inPath_beyond fun c mem ascii =>
    forall_ascii (p := fun c => isNameChar c = true → Uri.inPath (UInt8.ofNat c.toNat) = true)
      (by decide +kernel) c ascii (name.chars c mem)

theorem inQuery_encodeText (s : String) :
    (Utf8.bytes (Form.encodeText s)).all Uri.inQuery = true := by
  rw [Form.bytes_encodeText, List.all_eq_true]
  exact fun b mem => inQuery_written b (Form.encode_written _ b mem)

theorem inQuery_tailText (tail : Option Int) :
    (Utf8.bytes (Request.tailText tail)).all Uri.inQuery = true := by
  cases tail with
  | none => rfl
  | some n =>
    have start : (Utf8.bytes "&tailLines=").all Uri.inQuery = true := rfl
    have digits : (Utf8.bytes (toString n)).all Uri.inQuery = true :=
      Utf8.all_bytes inQuery_beyond fun c mem ascii =>
        forall_ascii
          (p := fun c => c.isDigit = true ∨ c = '-' → Uri.inQuery (UInt8.ofNat c.toNat) = true)
          (by decide +kernel) c ascii (Request.toString_chars n c mem)
    rw [Request.tailText, Utf8.bytes_append, List.all_append, start, digits]
    rfl

namespace Request

/-! ## Requests

A path and a query are concatenations, and each part is admitted for a reason of its own: fixed text
by evaluation, names by their alphabet, values because they are encoded. -/

theorem inPath_podsPath {ns : String} (own : Name ns) :
    (Utf8.bytes (podsPath ns)).all Uri.inPath = true := by
  have start : (Utf8.bytes "/api/v1/namespaces/").all Uri.inPath = true := rfl
  have pods : (Utf8.bytes "/pods").all Uri.inPath = true := rfl
  unfold podsPath
  rw [Utf8.bytes_append, Utf8.bytes_append, List.all_append, List.all_append, start, own.inPath, pods]
  rfl

theorem inPath_path {r : Request} (named : ∀ name ∈ r.names, Name name) :
    (Utf8.bytes r.path).all Uri.inPath = true := by
  have slash : (Utf8.bytes "/").all Uri.inPath = true := rfl
  have log : (Utf8.bytes "/log").all Uri.inPath = true := rfl
  cases r with
  | list ns selector => exact inPath_podsPath (named ns (by simp [names]))
  | get ns pod =>
    have own := inPath_podsPath (named ns (by simp [names]))
    have name := (named pod (by simp [names])).inPath
    rw [path, Utf8.bytes_append, Utf8.bytes_append, List.all_append, List.all_append, own, slash, name]
    rfl
  | log ns pod container tail =>
    have own := inPath_podsPath (named ns (by simp [names]))
    have name := (named pod (by simp [names])).inPath
    rw [path, Utf8.bytes_append, Utf8.bytes_append, Utf8.bytes_append, List.all_append,
      List.all_append, List.all_append, own, slash, name, log]
    rfl

theorem inQuery_query (r : Request) : (Utf8.bytes (r.query?.getD "")).all Uri.inQuery = true := by
  have ampersand : (Utf8.bytes "&").all Uri.inQuery = true := rfl
  have equals : (Utf8.bytes "=").all Uri.inQuery = true := rfl
  have selector : (Utf8.bytes "labelSelector").all Uri.inQuery = true := rfl
  have container : (Utf8.bytes "container").all Uri.inQuery = true := rfl
  have follow : (Utf8.bytes "&follow=true").all Uri.inQuery = true := rfl
  have nothing : (Utf8.bytes "").all Uri.inQuery = true := rfl
  cases r with
  | get ns pod => exact nothing
  | list ns text =>
    simp only [query?, Option.getD_some, Utf8.bytes_append, List.all_append, ampersand, equals,
      selector, nothing, inQuery_encodeText, Bool.and_self]
  | log ns pod text tail =>
    simp only [query?, Option.getD_some, Utf8.bytes_append, List.all_append, ampersand, equals,
      container, follow, inQuery_encodeText, inQuery_tailText, Bool.and_self]

theorem admitted_of_names {r : Request} (named : ∀ name ∈ r.names, Name name) :
    r.admitted = true := by
  rw [admitted, inPath_path named, inQuery_query]
  rfl

theorem ne_get_empty {r : Request} (named : ∀ name ∈ r.names, Name name) (ns : String) :
    r ≠ .get ns "" := by
  rintro rfl
  exact (named "" (by simp [names])).some rfl

/-- A request that names what it asks for is sent, if it is not too long. -/
theorem target_of_names {r : Request} (named : ∀ name ∈ r.names, Name name)
    (short : (Utf8.bytes r.address).length ≤ Uri.lengthLimit) :
    r.target = .ok ⟨r.path, r.query?⟩ := by
  rw [target_eq (fun name mem => (named name mem).piece) (ne_get_empty named),
    if_neg (Nat.not_lt.mpr short), if_pos (admitted_of_names named)]

theorem target_too_long {r : Request} (named : ∀ name ∈ r.names, Name name)
    (long : Uri.lengthLimit < (Utf8.bytes r.address).length) :
    r.target = .error (.badAddress .tooLong) := by
  rw [target_eq (fun name mem => (named name mem).piece) (ne_get_empty named), if_pos long]

end Request

end Api

end PodTail
