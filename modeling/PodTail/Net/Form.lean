import PodTail.Text.Ascii
import PodTail.Text.Cut
import PodTail.Text.Hex
import PodTail.Text.Utf8

/-!
# Escapes in addresses

`Percent.decode` replaces a percent sign and two hexadecimal digits by a byte, and keeps a percent
sign without them. The functions of `Form` add one rule, a plus sign for a blank; `Form.pairs` reads
a list of pairs, separated by `&`, with `=` between key and value.

The decoders take bytes to bytes. UTF-8 is decoded afterwards, so an escape may stand for a part of
a character.
-/

set_option autoImplicit false

namespace PodTail

/-! ## Percent escapes -/

namespace Percent

/-- Reads percent escapes. -/
def decode : List UInt8 → List UInt8
  | [] => []
  | [a] => [a]
  | [a, b] => [a, b]
  | a :: b :: c :: rest =>
    if a = 0x25 then
      match Hex.byteValue? b, Hex.byteValue? c with
      | some high, some low => UInt8.ofNat (high * 16 + low) :: decode rest
      | _, _ => a :: decode (b :: c :: rest)
    else a :: decode (b :: c :: rest)

end Percent

/-! ## Forms -/

namespace Form

/-- The blank. -/
def blank : UInt8 := 0x20

/-- The plus sign. -/
def plus : UInt8 := 0x2B

/-- Whether a form shows a byte as it is: letters, digits and `*-._`. -/
def isPlain (b : UInt8) : Bool :=
  Ascii.isPlain b || Ascii.isOne ['*', '-', '.', '_'] b

/-- A digit of an escape, as a byte. -/
def digit (n : Nat) : UInt8 :=
  UInt8.ofNat (Hex.upper n).toNat

/-- How a form writes a byte. -/
def escape (b : UInt8) : List UInt8 :=
  if b = blank then [plus]
  else if isPlain b then [b]
  else [0x25, digit (b.toNat / 16), digit (b.toNat % 16)]

/-- Writes bytes. -/
def encode (bs : List UInt8) : List UInt8 :=
  bs.flatMap escape

/-- Reads bytes. -/
def decode (bs : List UInt8) : List UInt8 :=
  Percent.decode (bs.map fun b => if b = plus then blank else b)

/-- Writes a text. -/
def encodeText (s : String) : String :=
  Utf8.repair (encode (Utf8.bytes s))

/-- The pairs of a form's text, in order: empty pieces are no pairs, and a piece without `=` is a
key with an empty value. -/
def pairs (s : String) : List (String × String) :=
  ((Cut.every (α := UInt8) 0x26 (Utf8.bytes s)).filter (· ≠ [])).map fun piece =>
    let p := (Cut.first? (α := UInt8) 0x3D piece).getD (piece, [])
    (Utf8.repair (decode p.1), Utf8.repair (decode p.2))

end Form

end PodTail
