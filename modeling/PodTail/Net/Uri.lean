import PodTail.Text.Ascii
import PodTail.Text.Cut
import PodTail.Text.Utf8

/-!
# Addresses

`Uri.read` reads the address of a request: a path and a query behind the first `?`, perhaps behind a
scheme and an authority. Only the path and the query are kept. The rest is checked and dropped, and
what stands behind a `#` is dropped unchecked.

* `inPath` and `inQuery` are the bytes that a path and a query may hold. Every byte of a character
  beyond ASCII is among them.
* `Seen.step` looks at one byte of an authority, and `Seen.isWhole` decides at its end. There may be
  one colon for a port, or the colons of one bracketed name; percent signs may stand before an `@`
  or within brackets only.
-/

set_option autoImplicit false

namespace PodTail

/-- A path, and the query if there is one. -/
structure Uri where
  path : String
  query : Option String
  deriving DecidableEq, Repr

namespace Uri

open Ascii (is isOne isPlain)

/-- Why a text is no address. -/
inductive Fault where
  | empty
  | tooLong
  | badCharacter
  | badAuthority
  | badFormat
  | schemeTooLong
  deriving DecidableEq, Repr

/-- The words for a fault. -/
def Fault.message : Fault → String
  | .empty => "empty string"
  | .tooLong => "uri too long"
  | .badCharacter => "invalid uri character"
  | .badAuthority => "invalid authority"
  | .badFormat => "invalid format"
  | .schemeTooLong => "scheme too long"

/-! ## Path and query -/

/-- Whether a path may hold a byte. -/
def inPath (b : UInt8) : Bool :=
  b = 0x21 || b = 0x22 || b = 0x3D || (0x24 ≤ b && b ≤ 0x3B) || (0x40 ≤ b && b ≤ 0x5F)
    || (0x61 ≤ b && b ≤ 0x7E) || 0x80 ≤ b

/-- Whether a query may hold a byte. -/
def inQuery (b : UInt8) : Bool :=
  b = 0x21 || b = 0x3D || (0x24 ≤ b && b ≤ 0x3B) || (0x3F ≤ b && b ≤ 0x7E) || 0x80 ≤ b

/-- Reads a path and a query; an empty path stands for the shortest one. -/
def target (bs : List UInt8) : Except Fault Uri :=
  let kept := Cut.before '#'.toUInt8 bs
  let (path, query) :=
    match Cut.first? '?'.toUInt8 kept with
    | some (path, query) => (path, some query)
    | none => (kept, none)
  if path.all inPath && (query.getD []).all inQuery then
    .ok ⟨if path = [] then "/" else Utf8.repair path, query.map Utf8.repair⟩
  else .error .badCharacter

/-! ## Scheme -/

/-- Whether a scheme may hold a byte. -/
def inScheme (b : UInt8) : Bool :=
  isPlain b || isOne ['+', '-', '.', '~'] b

/-- The length that a scheme may have. -/
def schemeLimit : Nat := 64

/-- What stands behind a scheme, if there is one. -/
def behindScheme? (bs : List UInt8) : Except Fault (Option (List UInt8)) :=
  let scheme := bs.takeWhile inScheme
  match bs.drop scheme.length with
  | colon :: slash :: slash' :: rest =>
    if is ':' colon && is '/' slash && is '/' slash' && 3 < bs.length then
      if schemeLimit < scheme.length then .error .schemeTooLong else .ok (some rest)
    else .ok none
  | _ => .ok none

/-! ## Authority -/

/-- Whether a byte may stand in an authority that no rule of its own speaks of; the last of them is
the apostrophe. -/
def inAuthority (b : UInt8) : Bool :=
  isPlain b
    || isOne ['!', '$', '&', '(', ')', '*', '+', ',', '-', '.', ';', '=', '_', '~'] b
    || b = 0x27

/-- What has been seen of an authority. -/
structure Seen where
  /-- The colons since the last `@` or `]`. -/
  colons : Nat
  opened : Bool
  closed : Bool
  /-- Whether there was a percent sign since the last `@` or `]`. -/
  percent : Bool
  /-- Whether the last byte was an `@`. -/
  atSign : Bool
  deriving DecidableEq, Repr

/-- The colons that an authority may hold, even in brackets. -/
def colonLimit : Nat := 8

/-- Looks at one byte of an authority. -/
def Seen.step (s : Seen) (b : UInt8) : Except Fault Seen :=
  let next := { s with atSign := false }
  if is ':' b then
    if colonLimit ≤ s.colons then .error .badAuthority
    else .ok { next with colons := s.colons + 1 }
  else if is '[' b then
    if s.percent || s.opened then .error .badAuthority else .ok { next with opened := true }
  else if is ']' b then
    if !s.opened || s.closed then .error .badAuthority
    else .ok { next with closed := true, colons := 0, percent := false }
  else if is '@' b then .ok { s with atSign := true, colons := 0, percent := false }
  else if is '%' b then .ok { next with percent := true }
  else if inAuthority b then .ok next
  else .error .badCharacter

/-- Whether what has been seen is an authority. -/
def Seen.isWhole (s : Seen) : Bool :=
  s.opened = s.closed && s.colons ≤ 1 && !s.atSign && !s.percent

/-- Whether a byte ends an authority. -/
def endsAuthority (b : UInt8) : Bool :=
  isOne ['/', '?', '#'] b

/-- The authority that an address begins with, which may be empty, and what stands behind it. -/
def authority (bs : List UInt8) : Except Fault (List UInt8 × List UInt8) :=
  let held := bs.takeWhile (!endsAuthority ·)
  match held.foldlM Seen.step ⟨0, false, false, false, false⟩ with
  | .error fault => .error fault
  | .ok seen =>
    if seen.isWhole then .ok (held, bs.drop held.length) else .error .badAuthority

/-! ## Whole addresses -/

/-- The length that an address may have, in bytes. -/
def lengthLimit : Nat := 65534

/-- Reads an address that does not begin with its path. It has a scheme, or is nothing but whom it
is meant for. -/
def absolute (bs : List UInt8) : Except Fault Uri :=
  match behindScheme? bs with
  | .error fault => .error fault
  | .ok none =>
    match authority bs with
    | .error fault => .error fault
    | .ok (_, []) => .ok ⟨"", none⟩
    | .ok (_, _ :: _) => .error (if bs.length = 1 then .badCharacter else .badFormat)
  | .ok (some rest) =>
    match authority rest with
    | .error fault => .error fault
    | .ok ([], _) => .error .badFormat
    | .ok (_ :: _, rest) => target rest

/-- Reads an address. -/
def read (s : String) : Except Fault Uri :=
  let bs := Utf8.bytes s
  if lengthLimit < bs.length then .error .tooLong
  else
    match bs with
    | [] => .error .empty
    | b :: rest =>
      if is '/' b then target bs
      else if is '*' b && rest = [] then .ok ⟨"*", none⟩
      else absolute bs

/-- The request target as it is sent. -/
def text (u : Uri) : String :=
  match u.query with
  | none => u.path
  | some query => u.path ++ "?" ++ query

/-- The pieces of the path between its slashes. -/
def segments (u : Uri) : List String :=
  (Cut.every '/' u.path.toList).map String.ofList

end Uri

end PodTail
