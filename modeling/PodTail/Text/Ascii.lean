/-!
# Bytes as characters of ASCII

A text of UTF-8 can be told apart at characters of ASCII byte by byte, since no other character has
such a byte in it.
-/

set_option autoImplicit false

namespace PodTail

namespace Ascii

/-- Whether a byte is a character of ASCII. -/
def is (c : Char) (b : UInt8) : Bool :=
  b = c.toUInt8

/-- Whether a byte is one of some characters of ASCII. -/
def isOne (cs : List Char) (b : UInt8) : Bool :=
  cs.any (is · b)

/-- Whether a byte is a decimal digit. -/
def isDigit (b : UInt8) : Bool :=
  0x30 ≤ b && b ≤ 0x39

/-- The value of a digit. -/
def digit (b : UInt8) : Nat :=
  b.toNat - 0x30

/-- Whether a byte is a letter or a digit. -/
def isPlain (b : UInt8) : Bool :=
  isDigit b || (0x41 ≤ b && b ≤ 0x5A) || (0x61 ≤ b && b ≤ 0x7A)

/-- A letter in lower case, any other byte as it is. -/
def lower (b : UInt8) : UInt8 :=
  if 0x41 ≤ b && b ≤ 0x5A then b + 32 else b

end Ascii

end PodTail
