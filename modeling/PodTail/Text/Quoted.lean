import PodTail.Text.Hex
import PodTail.Text.Unshown

/-!
# Quoted texts

`Quoted.text` puts a text between double quotes for a message. A quote and a backslash get a
backslash, the usual controls their letter, a character that is not shown its code point as
`\u{…}`. Every other character stands as it is, the apostrophe too.
-/

set_option autoImplicit false

namespace PodTail

namespace Quoted

/-- One character inside the quotes. -/
def character (c : Char) : List Char :=
  if c = '"' then ['\\', '"']
  else if c = '\\' then ['\\', '\\']
  else if c = '\n' then ['\\', 'n']
  else if c = '\r' then ['\\', 'r']
  else if c = '\t' then ['\\', 't']
  else if c.toNat = 0 then ['\\', '0']
  else if c.toNat < 0x20 || Unshown.holds c then
    ['\\', 'u', '\x7b'] ++ Hex.ofNat c.toNat ++ ['\x7d']
  else [c]

/-- A text in quotes. -/
def text (s : String) : String :=
  String.ofList ('"' :: s.toList.flatMap character ++ ['"'])

end Quoted

end PodTail
