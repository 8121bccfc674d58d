/-!
# Base64

Bytes as text: three bytes make four characters of an alphabet of 64, and a last group of one or two
bytes is filled up with `=`.
-/

set_option autoImplicit false

namespace PodTail

namespace Base64

/-- The characters, by value. -/
def alphabet : List Char :=
  "ABCDEFGHIJKLMNOPQRSTUVWXYZabcdefghijklmnopqrstuvwxyz0123456789+/".toList

/-- The character of a value. -/
def character (n : Nat) : Char :=
  alphabet.getD (n % 64) '='

/-- The characters of some bytes. -/
def characters : List UInt8 → List Char
  | [] => []
  | [a] => [character (a.toNat / 4), character (a.toNat * 16), '=', '=']
  | [a, b] =>
    let n := a.toNat * 256 + b.toNat
    [character (n / 1024), character (n / 16), character (n * 4), '=']
  | a :: b :: c :: rest =>
    let n := a.toNat * 65536 + b.toNat * 256 + c.toNat
    character (n / 262144) :: character (n / 4096) :: character (n / 64) :: character n
      :: characters rest

/-- The text of some bytes. -/
def encode (bytes : List UInt8) : String :=
  String.ofList (characters bytes)

end Base64

end PodTail
