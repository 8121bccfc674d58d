import PodTail.Text.Hex

/-!
# Socket addresses

`SocketAddress.read?` reads an address to listen on: an IPv4 address or an IPv6 address in brackets,
and a port. The octets of an IPv4 address have no leading zeros. The groups of an IPv6 address have
four digits at most, `::` stands for one group of zeros or more, and the last two groups may be
written as an IPv4 address. A scope, behind a percent sign, is a number.

`SocketAddress.text` writes an address in one way: lower case, no leading zeros, `::` for the first
of the `longest` runs of at least two zeros, and an IPv4 address that is mapped into IPv6 as
`::ffff:` and its four octets.
-/

set_option autoImplicit false

namespace PodTail

/-- An address and a port. -/
inductive SocketAddress where
  | v4 (octets : List Nat) (port : Nat)
  | v6 (groups : List Nat) (scope port : Nat)
  deriving DecidableEq, Repr

namespace SocketAddress

/-! ## Reading -/

/-- Reads a number of a base below a limit, from all digits that stand there: at most so many, and
without a leading zero unless that is allowed. -/
def number (base : Nat) (most : Option Nat) (zeros : Bool) (limit : Nat) (cs : List Char) :
    Option (Nat × List Char) :=
  let isDigit := fun c => ((Hex.value? c).map fun d => decide (d < base)).getD false
  let digits := cs.takeWhile isDigit
  let value := digits.foldl (fun n c => n * base + (Hex.value? c).getD 0) 0
  let tooMany := (most.map fun m => decide (m < digits.length)).getD false
  if digits.isEmpty || tooMany || (!zeros && 1 < digits.length && digits.head? = some '0')
      || limit ≤ value then none
  else some (value, cs.dropWhile isDigit)

/-- Reads a character. -/
def char (c : Char) : List Char → Option (List Char)
  | d :: rest => if c = d then some rest else none
  | [] => none

/-- Reads an octet. -/
def octet (cs : List Char) : Option (Nat × List Char) :=
  number 10 (some 3) false 256 cs

/-- Reads an IPv4 address. -/
def ipv4 (cs : List Char) : Option (List Nat × List Char) := do
  let (a, cs) ← octet cs
  let cs ← char '.' cs
  let (b, cs) ← octet cs
  let cs ← char '.' cs
  let (c, cs) ← octet cs
  let cs ← char '.' cs
  let (d, cs) ← octet cs
  some ([a, b, c, d], cs)

/-- The two groups of an IPv4 address. -/
def pair : List Nat → List Nat
  | [a, b, c, d] => [a * 256 + b, c * 256 + d]
  | _ => []

/-- Reads at most `n` groups with colons between them, and whether an IPv4 address ends them. -/
def groups : Nat → Bool → List Char → List Nat × Bool × List Char
  | 0, _, cs => ([], false, cs)
  | n + 1, first, cs =>
    match if first then some cs else char ':' cs with
    | none => ([], false, cs)
    | some behind =>
      match if n = 0 then none else ipv4 behind with
      | some (octets, rest) => (pair octets, true, rest)
      | none =>
        match number 16 (some 4) true 65536 behind with
        | none => ([], false, cs)
        | some (g, rest) =>
          let (more, mapped, rest) := groups n false rest
          (g :: more, mapped, rest)

/-- Reads an IPv6 address. -/
def ipv6 (cs : List Char) : Option (List Nat × List Char) :=
  let (head, mapped, rest) := groups 8 true cs
  if head.length = 8 then some (head, rest)
  else if mapped then none
  else do
    let rest ← char ':' rest
    let rest ← char ':' rest
    let (tail, _, rest) := groups (7 - head.length) true rest
    some (head ++ List.replicate (8 - head.length - tail.length) 0 ++ tail, rest)

/-- Reads a port behind its colon, to the end. -/
def port (cs : List Char) : Option Nat := do
  let cs ← char ':' cs
  let (n, rest) ← number 10 none true 65536 cs
  if rest.isEmpty then some n else none

/-- Reads an address. -/
def read? (s : String) : Option SocketAddress :=
  let cs := s.toList
  match ipv4 cs with
  | some (octets, rest) => (port rest).map (.v4 octets)
  | none => do
    let cs ← char '[' cs
    let (gs, cs) ← ipv6 cs
    let (scope, cs) ←
      match char '%' cs with
      | some rest => number 10 none true 4294967296 rest
      | none => some (0, cs)
    let cs ← char ']' cs
    (port cs).map (.v6 gs scope)

/-! ## Writing -/

/-- Texts with a separator between them. -/
def joined (sep : String) (texts : List String) : String :=
  String.intercalate sep texts

/-- A group. -/
def group (n : Nat) : String :=
  String.ofList (Hex.ofNat n)

/-- How many zeros a list starts with. -/
def zeros (l : List Nat) : Nat :=
  (l.takeWhile (· = 0)).length

/-- The start and the length of the first longest run of zeros. -/
def longest (l : List Nat) : Nat × Nat :=
  (List.range l.length).foldl (fun best i =>
    let n := zeros (l.drop i)
    if best.2 < n then (i, n) else best) (0, 0)

/-- An IPv4 address. -/
def ipv4Text (octets : List Nat) : String :=
  joined "." (octets.map toString)

/-- An IPv6 address. -/
def ipv6Text (l : List Nat) : String :=
  match l with
  | [0, 0, 0, 0, 0, 0xFFFF, a, b] => "::ffff:" ++ ipv4Text [a / 256, a % 256, b / 256, b % 256]
  | l =>
    let (start, n) := longest l
    if n < 2 then joined ":" (l.map group)
    else joined ":" ((l.take start).map group) ++ "::" ++ joined ":" ((l.drop (start + n)).map group)

/-- An address as it is written. -/
def text : SocketAddress → String
  | .v4 octets port => ipv4Text octets ++ ":" ++ toString port
  | .v6 gs scope port =>
    "[" ++ ipv6Text gs ++ (if scope = 0 then "" else "%" ++ toString scope) ++ "]:" ++ toString port

end SocketAddress

end PodTail
