import PodTail.Json.Value
import PodTail.Text.Hex

/-!
# Writing JSON

Documents in their compact form: no blanks, and in a text only what must be escaped: the quote,
the backslash, and the controls, of which five have a letter. Items and members are parted by commas.
-/

set_option autoImplicit false

namespace PodTail

namespace Json

/-- One character inside the quotes. -/
def character (c : Char) : List Char :=
  if c = '"' then ['\\', '"']
  else if c = '\\' then ['\\', '\\']
  else if c = '\n' then ['\\', 'n']
  else if c = '\r' then ['\\', 'r']
  else if c = '\t' then ['\\', 't']
  else if c.toNat = 8 then ['\\', 'b']
  else if c.toNat = 12 then ['\\', 'f']
  else if c.toNat < 0x20 then
    ['\\', 'u', '0', '0', Hex.lower (c.toNat / 16), Hex.lower (c.toNat % 16)]
  else [c]

/-- A text in quotes. -/
def quote (s : String) : String :=
  String.ofList ('"' :: s.toList.flatMap character ++ ['"'])

mutual

/-- The compact text of a document. -/
def compact : Json → String
  | .null => "null"
  | .bool true => "true"
  | .bool false => "false"
  | .int n => toString n
  | .float x => x.text
  | .text s => quote s
  | .list l => "[" ++ ",".intercalate (compactItems l) ++ "]"
  | .object m => "\x7b" ++ ",".intercalate (compactMembers m) ++ "\x7d"

/-- The texts of items. -/
def compactItems : List Json → List String
  | [] => []
  | j :: rest => compact j :: compactItems rest

/-- The texts of members. -/
def compactMembers : List (String × Json) → List String
  | [] => []
  | (k, j) :: rest => (quote k ++ ":" ++ compact j) :: compactMembers rest

end

end Json

end PodTail
