import PodTail.Text.Ascii
import PodTail.Text.Cut
import PodTail.Text.Utf8

/-!
# Headers

The header fields of a request, in the order they came. `Headers.first?` and `Headers.all` look
values up, without regard to the case of the name. A value is bytes, and is a text only if all of
them are visible ASCII, blanks or tabs (`Header.visible?`).
-/

set_option autoImplicit false

namespace PodTail

/-- A header field. -/
structure Header where
  name : String
  value : List UInt8
  deriving DecidableEq, Repr

/-- The header fields of a request. -/
abbrev Headers := List Header

namespace Header

/-- Bytes with their letters in lower case. -/
def lower (bs : List UInt8) : List UInt8 :=
  bs.map Ascii.lower

/-- Whether two names are the same but for case. -/
def sameName (a b : String) : Bool :=
  lower (Utf8.bytes a) = lower (Utf8.bytes b)

/-- The blanks that may stand around a value. -/
def isBlank (b : UInt8) : Bool :=
  b = 0x20 || b = 0x09

/-- Bytes without the blanks around them. -/
def trim (bs : List UInt8) : List UInt8 :=
  ((bs.dropWhile isBlank).reverse.dropWhile isBlank).reverse

/-- Whether some bytes are a name: letters, digits, and the marks that divide nothing, both kinds of
apostrophe among them. -/
def isToken (bs : List UInt8) : Bool :=
  bs ≠ [] && bs.all fun b =>
    Ascii.isPlain b
      || Ascii.isOne ['!', '#', '$', '%', '&', '*', '+', '-', '.', '^', '_', '|', '~'] b
      || b = 0x27 || b = 0x60

/-- Whether a byte may stand in a value. -/
def mayHold (b : UInt8) : Bool :=
  (0x20 ≤ b && b ≠ 0x7F) || b = 0x09

/-- Whether a byte may stand in a text. -/
def isVisible (b : UInt8) : Bool :=
  (0x20 ≤ b && b ≤ 0x7E) || b = 0x09

/-- The bytes of a value that is a text. -/
def visible? (bs : List UInt8) : Option (List UInt8) :=
  if bs.all isVisible then some bs else none

/-- The values parted by commas, without the blanks around them. -/
def parts (bs : List UInt8) : List (List UInt8) :=
  (Cut.every 0x2C bs).map trim

/-- The bytes of a value given as characters, one for each byte. -/
def ofLatin (s : String) : List UInt8 :=
  s.toList.map fun c => UInt8.ofNat c.toNat

end Header

namespace Headers

/-- The first value under a name. -/
def first? (h : Headers) (name : String) : Option (List UInt8) :=
  (h.find? fun e => Header.sameName e.name name).map (·.value)

/-- All values under a name. -/
def all (h : Headers) (name : String) : List (List UInt8) :=
  (h.filter fun e => Header.sameName e.name name).map (·.value)

end Headers

end PodTail
