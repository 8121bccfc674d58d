/-!
# Hexadecimal digits

Numbers and bytes in base sixteen, and digits read back.
-/

set_option autoImplicit false

namespace PodTail

namespace Hex

/-- A digit below sixteen, in lower case. -/
def lower (n : Nat) : Char :=
  if n < 10 then Char.ofNat (48 + n) else Char.ofNat (87 + n)

/-- A digit below sixteen, in upper case. -/
def upper (n : Nat) : Char :=
  if n < 10 then Char.ofNat (48 + n) else Char.ofNat (55 + n)

/-- A number without leading zeros, in lower case. -/
def ofNat (n : Nat) : List Char :=
  Nat.toDigits 16 n

/-- The value of a digit, in either case. -/
def value? (c : Char) : Option Nat :=
  if '0' ≤ c ∧ c ≤ '9' then some (c.toNat - 48)
  else if 'a' ≤ c ∧ c ≤ 'f' then some (c.toNat - 87)
  else if 'A' ≤ c ∧ c ≤ 'F' then some (c.toNat - 55)
  else none

/-- The value of a digit given as a byte. -/
def byteValue? (b : UInt8) : Option Nat :=
  value? (Char.ofNat b.toNat)

/-- Bytes written as pairs of digits; a last single digit and anything else are refused. -/
def bytes? : List Char → Option (List UInt8)
  | [] => some []
  | [_] => none
  | a :: b :: rest => do
    let high ← value? a
    let low ← value? b
    let more ← bytes? rest
    pure (UInt8.ofNat (high * 16 + low) :: more)

end Hex

end PodTail
