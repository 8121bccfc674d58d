/-!
# UTF-8

`encode` writes characters as bytes, and `decode` reads bytes that need not be UTF-8. `decode` never
fails. It takes one byte at a time (`step`), and where the bytes so far can no longer begin a
character, it gives one `none` for all of them and starts afresh with the next byte. So each maximal
run of bytes that begins a character and is cut short counts once, and a byte below `0x80` always
ends what came before it.

`repair` replaces each `none` by U+FFFD; `read?` refuses such a text.
-/

set_option autoImplicit false

namespace PodTail

namespace Utf8

/-- The bytes of a text. -/
def encode (cs : List Char) : List UInt8 :=
  cs.flatMap String.utf8EncodeChar

/-- The bytes of a string. -/
def bytes (s : String) : List UInt8 :=
  encode s.toList

/-- A character of which some bytes have come: how many are still owed, the range the next one
must lie in, and the value so far. -/
structure Begun where
  owed : Nat
  low : UInt8
  high : UInt8
  value : Nat
  deriving DecidableEq, Repr

/-- What a byte means where a character may start. -/
inductive Start where
  /-- A whole character. -/
  | whole (c : Char)
  | begun (b : Begun)
  /-- No character starts so. -/
  | invalid

/-- Reads the first byte of a character. -/
def start (b : UInt8) : Start :=
  if b < 0x80 then .whole (Char.ofNat b.toNat)
  else if b < 0xC2 then .invalid
  else if b < 0xE0 then .begun ⟨0, 0x80, 0xBF, b.toNat - 0xC0⟩
  else if b = 0xE0 then .begun ⟨1, 0xA0, 0xBF, 0⟩
  else if b = 0xED then .begun ⟨1, 0x80, 0x9F, 0xD⟩
  else if b < 0xF0 then .begun ⟨1, 0x80, 0xBF, b.toNat - 0xE0⟩
  else if b = 0xF0 then .begun ⟨2, 0x90, 0xBF, 0⟩
  else if b < 0xF4 then .begun ⟨2, 0x80, 0xBF, b.toNat - 0xF0⟩
  else if b = 0xF4 then .begun ⟨2, 0x80, 0x8F, 4⟩
  else .invalid

/-- Where the reader stands between bytes. -/
abbrev State := Option Begun

/-- Reads one byte where a character may start. -/
def fresh (b : UInt8) : State × List (Option Char) :=
  match start b with
  | .whole c => (none, [some c])
  | .begun p => (some p, [])
  | .invalid => (none, [none])

/-- Reads one byte: the new state, and what has become certain. -/
def step (s : State) (b : UInt8) : State × List (Option Char) :=
  match s with
  | none => fresh b
  | some p =>
    if p.low ≤ b ∧ b ≤ p.high then
      let value := p.value * 64 + (b.toNat - 0x80)
      match p.owed with
      | 0 => (none, [some (Char.ofNat value)])
      | n + 1 => (some ⟨n, 0x80, 0xBF, value⟩, [])
    else
      ((fresh b).1, none :: (fresh b).2)

/-- Reads bytes from a state; a character still owed bytes at the end is one `none`. -/
def decodeFrom (s : State) : List UInt8 → List (Option Char)
  | [] => if s.isSome then [none] else []
  | b :: rest => (step s b).2 ++ decodeFrom (step s b).1 rest

/-- The characters of a run of bytes, each maximal piece that is none as `none`. -/
def decode (bs : List UInt8) : List (Option Char) :=
  decodeFrom none bs

/-- The character that stands for bytes that are none. -/
def replacement : Char := '\uFFFD'

/-- The text of a run of bytes, with `replacement` for each piece that is no character. -/
def repair (bs : List UInt8) : String :=
  String.ofList ((decode bs).map (·.getD replacement))

/-- The text of a run of bytes, where all of them are characters. -/
def read? (bs : List UInt8) : Option String :=
  ((decode bs).mapM id).map String.ofList

/-! ## What is wrong with bytes that are no text -/

/-- The first piece that is no character, by its place. -/
inductive Fault where
  /-- So many bytes that no character begins with. -/
  | invalid (length index : Nat)
  /-- The bytes end in the middle of a character. -/
  | incomplete (index : Nat)
  deriving DecidableEq, Repr

/-- The words for a fault. -/
def Fault.message : Fault → String
  | .invalid length index =>
    "invalid utf-8 sequence of " ++ toString length ++ " bytes from index " ++ toString index
  | .incomplete index => "incomplete utf-8 byte sequence from index " ++ toString index

/-- The first fault from a state on, in which `held` bytes of a character have come; `index` bytes
came before them. -/
def faultFrom (s : State) (held index : Nat) : List UInt8 → Option Fault
  | [] => if s.isSome then some (.incomplete index) else none
  | b :: rest =>
    match step s b with
    | (_, none :: _) => some (.invalid (max held 1) index)
    | (none, _) => faultFrom none 0 (index + held + 1) rest
    | (some p, _) => faultFrom (some p) (held + 1) index rest

/-- The first fault. -/
def fault? (bs : List UInt8) : Option Fault :=
  faultFrom none 0 0 bs

end Utf8

end PodTail
