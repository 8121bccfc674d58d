import PodTail.Json.Fault
import PodTail.Json.Value
import PodTail.Text.Ascii
import PodTail.Text.Hex
import PodTail.Text.Utf8

/-!
# The parts of a JSON text

A reader (`Reads`, `Passes`) works on the bytes of a text and returns what is left of them. One that
gives up returns a `Stop`, and `Stop.fault` finds the line and the column from what is left: `ahead`
blames the byte that was looked at, `behind` the place behind the last byte read.

This module has the readers of the parts that contain no others. `skip` drops blanks, `word` reads
`null`, `true` and `false`, `textFrom` reads a string and decodes its escapes, and `passText` only
looks for its end.

Readers with a loop take a number of steps. Each step but the last reads a byte, so one step more
than there are bytes is enough.
-/

set_option autoImplicit false

namespace PodTail

namespace Json

namespace Reader

open Ascii (is)

/-! ## Places -/

/-- Why a reader gave up, what was left of the text, and whether the next byte is to blame. -/
structure Stop where
  problem : Problem
  left : List UInt8
  looking : Bool

/-- A reader: a value and the rest of the text. -/
abbrev Reads (α : Type) := Except Stop (α × List UInt8)

/-- A reader that only passes over what it reads: the rest of the text. -/
abbrev Passes := Except Stop (List UInt8)

/-- Gives up behind what has been read. -/
def behind {α : Type} (problem : Problem) (left : List UInt8) : Except Stop α :=
  .error ⟨problem, left, false⟩

/-- Gives up at the next byte. -/
def ahead {α : Type} (problem : Problem) (left : List UInt8) : Except Stop α :=
  .error ⟨problem, left, true⟩

/-- The line, from one, and the column, the bytes since the last line break, behind some bytes. -/
def place (bytes : List UInt8) : Nat × Nat :=
  bytes.foldl (fun p b => if b = 10 then (p.1 + 1, 0) else (p.1, p.2 + 1)) ((1, 0) : Nat × Nat)

/-- The fault of a reader that gave up on some bytes. -/
def Stop.fault (bytes : List UInt8) (s : Stop) : Fault :=
  let read := bytes.length - s.left.length
  let (line, column) := place (bytes.take (if s.looking then read + 1 else read))
  ⟨s.problem, line, column⟩

/-! ## Blanks and words -/

/-- Whether a byte is a blank between the parts of a document. -/
def isBlank (b : UInt8) : Bool :=
  is ' ' b || is '\n' b || is '\t' b || is '\r' b

/-- Drops blanks. -/
def skip (bs : List UInt8) : List UInt8 :=
  bs.dropWhile isBlank

/-- What is left behind a character that may stand first, behind blanks. -/
def without (c : Char) (bs : List UInt8) : List UInt8 :=
  match skip bs with
  | b :: rest => if is c b then rest else b :: rest
  | [] => []

/-- Reads what is left of a word. -/
def word (value : Json) : List Char → List UInt8 → Reads Json
  | [], bs => .ok (value, bs)
  | _ :: _, [] => behind .endInValue []
  | c :: cs, b :: bs => if is c b then word value cs bs else behind .wordMisspelt bs

/-! ## Texts -/

/-- Reads four hexadecimal digits. -/
def unit : List UInt8 → Reads Nat
  | a :: b :: c :: d :: rest =>
    match Hex.byteValue? a, Hex.byteValue? b, Hex.byteValue? c, Hex.byteValue? d with
    | some a, some b, some c, some d => .ok (((a * 16 + b) * 16 + c) * 16 + d, rest)
    | _, _, _, _ => behind .badEscape rest
  | _ => behind .endInText []

/-- Reads the second half of a pair of surrogates. -/
def surrogate (high : Nat) : List UInt8 → Reads Char
  | [] => behind .endInText []
  | b :: rest =>
    if is '\\' b then
      match rest with
      | [] => behind .endInText []
      | b :: rest =>
        if is 'u' b then
          match unit rest with
          | .error stop => .error stop
          | .ok (low, rest) =>
            if low < 0xDC00 || 0xDFFF < low then behind .loneSurrogate rest
            else .ok (Char.ofNat (0x10000 + (high - 0xD800) * 0x400 + (low - 0xDC00)), rest)
        else behind .hexEscapeCut rest
    else behind .hexEscapeCut rest

/-- The character that an escape of one letter stands for. -/
def letter? (b : UInt8) : Option Char :=
  if is '"' b then some '"'
  else if is '\\' b then some '\\'
  else if is '/' b then some '/'
  else if is 'b' b then some (Char.ofNat 8)
  else if is 'f' b then some (Char.ofNat 12)
  else if is 'n' b then some '\n'
  else if is 'r' b then some '\r'
  else if is 't' b then some '\t'
  else none

/-- Reads an escape behind its backslash. -/
def escape : List UInt8 → Reads Char
  | [] => behind .endInText []
  | b :: rest =>
    if is 'u' b then
      match unit rest with
      | .error stop => .error stop
      | .ok (n, rest) =>
        if 0xDC00 ≤ n && n ≤ 0xDFFF then behind .loneSurrogate rest
        else if 0xD800 ≤ n && n ≤ 0xDBFF then surrogate n rest
        else .ok (Char.ofNat n, rest)
    else
      match letter? b with
      | some c => .ok (c, rest)
      | none => behind .badEscape rest

/-- Reads a text behind its opening quote, in at most so many steps; `read` are the bytes of it
that have been read, last byte first. -/
def textFrom : Nat → List UInt8 → List UInt8 → Reads String
  | 0, _, bs => behind .endInText bs
  | _ + 1, _, [] => behind .endInText []
  | n + 1, read, b :: rest =>
    if is '"' b then .ok (Utf8.repair read.reverse, rest)
    else if is '\\' b then
      match escape rest with
      | .error stop => .error stop
      | .ok (c, rest) => textFrom n ((String.utf8EncodeChar c).reverse ++ read) rest
    else if b < 0x20 then behind .bareControl rest
    else textFrom n (b :: read) rest

/-- Passes over an escape behind its backslash. What it stands for does not matter. -/
def passEscape : List UInt8 → Passes
  | [] => behind .endInText []
  | b :: rest =>
    if is 'u' b then (unit rest).map (·.2)
    else if (letter? b).isSome then .ok rest
    else behind .badEscape rest

/-- Passes over a text behind its opening quote, in at most so many steps. -/
def passText : Nat → List UInt8 → Passes
  | 0, bs => behind .endInText bs
  | _ + 1, [] => behind .endInText []
  | n + 1, b :: rest =>
    if is '"' b then .ok rest
    else if is '\\' b then
      match passEscape rest with
      | .error stop => .error stop
      | .ok rest => passText n rest
    else if b < 0x20 then behind .bareControl (b :: rest)
    else passText n rest

end Reader

end Json

end PodTail
