import PodTail.Json.Number

/-!
# Passing over values

`passFrom` passes over a value that no shape asks for. It keeps what encloses the value in a list of
`Frame`s instead of recursing into it, so there is no limit on the depth here. Numbers may be of any
size, and surrogates need no partner.

The value must be well formed all the same. The complaints differ from those of `valueFrom`: behind
a comma, `passKey` and `passFrom` ask for the key or the value that has to follow, and there is no
`trailingComma`.
-/

set_option autoImplicit false

namespace PodTail

namespace Json

namespace Reader

open Ascii (is isDigit)

/-- What encloses a value. -/
inductive Frame where
  | list
  | object
  deriving DecidableEq, Repr

namespace Frame

/-- The character that ends it. -/
def closer : Frame → Char
  | .list => ']'
  | .object => '\x7d'

/-- The text has ended in it. -/
def cut : Frame → Problem
  | .list => .endInList
  | .object => .endInObject

/-- Neither a comma nor the end comes behind a value in it. -/
def notContinued : Frame → Problem
  | .list => .listNotContinued
  | .object => .objectNotContinued

end Frame

/-- Passes over a value without parts, which begins with `b`, in at most so many steps. -/
def passScalar (n : Nat) (b : UInt8) (rest : List UInt8) : Passes :=
  if is 'n' b then (word .null "ull".toList rest).map (·.2)
  else if is 't' b then (word .null "rue".toList rest).map (·.2)
  else if is 'f' b then (word .null "alse".toList rest).map (·.2)
  else if is '-' b then passNumber rest
  else if isDigit b then passNumber (b :: rest)
  else if is '"' b then passText n rest
  else ahead .valueMissing (b :: rest)

/-- Passes over what must stand before a value, which is a key and a colon in an object, in at most
so many steps. -/
def passKey (n : Nat) (f : Frame) (bs : List UInt8) : Passes :=
  match f with
  | .list => .ok bs
  | .object =>
    match skip bs with
    | [] => ahead .endInObject []
    | b :: rest =>
      if is '"' b then
        match passText n rest with
        | .error stop => .error stop
        | .ok rest =>
          match skip rest with
          | [] => ahead .endInObject []
          | b :: rest => if is ':' b then .ok rest else ahead .colonMissing (b :: rest)
      else ahead .keyNotText (b :: rest)

mutual

/-- Passes over a value and the rest of what encloses it, innermost first, in at most so many
steps. Each byte takes at most two. -/
def passFrom : Nat → List Frame → List UInt8 → Passes
  | 0, _, bs => behind .endInValue bs
  | n + 1, frames, bs =>
    match skip bs with
    | [] => ahead .endInValue []
    | b :: rest =>
      if is '[' b then passOpened n .list frames rest
      else if is '\x7b' b then passOpened n .object frames rest
      else
        match passScalar n b rest with
        | .error stop => .error stop
        | .ok rest => passBehind n frames rest

/-- Passes over what has just been opened. -/
def passOpened : Nat → Frame → List Frame → List UInt8 → Passes
  | 0, _, _, bs => behind .endInValue bs
  | n + 1, f, frames, bs =>
    match skip bs with
    | [] => ahead f.cut []
    | b :: rest =>
      if is f.closer b then passBehind n frames rest
      else
        match passKey n f (b :: rest) with
        | .error stop => .error stop
        | .ok rest => passFrom n (f :: frames) rest

/-- Passes over what comes behind a value. -/
def passBehind : Nat → List Frame → List UInt8 → Passes
  | _, [], bs => .ok bs
  | 0, _ :: _, bs => behind .endInValue bs
  | n + 1, f :: frames, bs =>
    match skip bs with
    | [] => ahead f.cut []
    | b :: rest =>
      if is ',' b then
        match passKey n f rest with
        | .error stop => .error stop
        | .ok rest => passFrom n (f :: frames) rest
      else if is f.closer b then passBehind n frames rest
      else ahead f.notContinued (b :: rest)

end

end Reader

end Json

end PodTail
