/-!
# Blanks

The characters that stand for nothing but space: those of the Unicode property `White_Space`.
-/

set_option autoImplicit false

namespace PodTail

namespace Blank

/-- Whether a character is a blank. -/
def isBlank (c : Char) : Bool :=
  let n := c.toNat
  (9 ≤ n && n ≤ 13) || n = 32 || n = 0x85 || n = 0xA0 || n = 0x1680 || (0x2000 ≤ n && n ≤ 0x200A)
    || n = 0x2028 || n = 0x2029 || n = 0x202F || n = 0x205F || n = 0x3000

/-- Drops the blanks that stand first. -/
def skip (cs : List Char) : List Char :=
  cs.dropWhile isBlank

end Blank

end PodTail
