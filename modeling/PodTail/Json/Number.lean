import PodTail.Json.Scan

/-!
# Numbers in a JSON text

`number` reads a number behind its sign.

* `accumulate` takes as many digits as fit into 64 bits and counts the others.
* `afterWhole` decides what the number is. Without a point and an exponent it is `whole`, an integer
  if it fits into 64 bits. Otherwise it is `scaled`: the digits kept, times a power of ten. `-0` is
  a floating point number.
* `power` reads an exponent. One above `greatestExponent` makes zero if it is negative or there is
  nothing to scale, and is an error otherwise.
* `passNumber` checks the form only, so a number that is passed over may be of any size.
-/

set_option autoImplicit false

namespace PodTail

namespace Json

namespace Reader

open Ascii (is isDigit digit)

/-! ## Digits -/

/-- Whether a byte begins an exponent. -/
def marksPower (b : UInt8) : Bool :=
  is 'e' b || is 'E' b

/-- The greatest number of 64 bits. -/
def greatestSignificand : Nat := 18446744073709551615

/-- A number with some digits more, as long as it fits into 64 bits, and how many digits are left
over. -/
def accumulate (n : Nat) : List UInt8 → Nat × Nat
  | [] => (n, 0)
  | b :: rest =>
    let m := n * 10 + digit b
    if m ≤ greatestSignificand then accumulate m rest else (n, rest.length + 1)

/-- A whole number, or the floating point number nearest to it where it does not fit. -/
def whole (negative : Bool) (n : Nat) : Option Json :=
  if !negative then some (.int n)
  else if n ≠ 0 ∧ n ≤ 9223372036854775808 then some (.int (-n))
  else (Binary64.nearest? true n 1).map .float

/-! ## Exponents -/

/-- The greatest exponent, before its sign. -/
def greatestExponent : Nat := 2147483647

/-- Reads the digits of an exponent that begins with `n`; where it grows too great, what is left
behind the digit that made it so. -/
def exponentFrom (n : Nat) : List UInt8 → Except (List UInt8) (Nat × List UInt8)
  | [] => .ok (n, [])
  | b :: rest =>
    if isDigit b then
      let m := n * 10 + digit b
      if m ≤ greatestExponent then exponentFrom m rest else .error rest
    else .ok (n, b :: rest)

/-- Whether an exponent is negative, and what is left behind its sign. -/
def exponentSign : List UInt8 → Bool × List UInt8
  | b :: rest =>
    if is '-' b then (true, rest) else if is '+' b then (false, rest) else (false, b :: rest)
  | [] => (false, [])

/-- Reads an exponent behind its letter, and scales a significand by it. An exponent that is too
great makes zero of zero, and of everything where it is negative. -/
def power (negative : Bool) (significand : Nat) (scale : Int) (bs : List UInt8) : Reads Json :=
  let (down, bs) := exponentSign bs
  match bs with
  | [] => behind .endInValue []
  | b :: rest =>
    if !isDigit b then behind .badNumber rest
    else
      match exponentFrom 0 (b :: rest) with
      | .ok (n, rest) =>
        match Binary64.scaled? negative significand (if down then scale - n else scale + n) with
        | some x => .ok (.float x, rest)
        | none => behind .numberTooLarge rest
      | .error rest =>
        if down || significand = 0 then
          .ok (.float (Binary64.zero negative), rest.dropWhile isDigit)
        else behind .numberTooLarge rest

/-! ## Numbers -/

/-- Reads an exponent if there is one, and scales a significand. -/
def scaled (negative : Bool) (significand : Nat) (scale : Int) (bs : List UInt8) : Reads Json :=
  let plain : Reads Json :=
    match Binary64.scaled? negative significand scale with
    | some x => .ok (.float x, bs)
    | none => behind .numberTooLarge bs
  match bs with
  | b :: rest => if marksPower b then power negative significand scale rest else plain
  | [] => plain

/-- Reads what follows the whole part of a number, whose first digits make `n`, and of whose digits
`spare` are left over. -/
def afterWhole (negative : Bool) (n spare : Nat) (bs : List UInt8) : Reads Json :=
  match bs with
  | [] => if spare = 0 then done bs else scaled negative n spare bs
  | b :: rest =>
    if is '.' b then
      match rest.takeWhile isDigit, rest.dropWhile isDigit with
      | [], [] => ahead .endInValue []
      | [], rest => ahead .badNumber rest
      | digits, rest =>
        let (n, left) := accumulate n digits
        scaled negative n (spare - (digits.length - left : Nat)) rest
    else if marksPower b then power negative n spare rest
    else if spare = 0 then done bs
    else scaled negative n spare bs
where
  /-- The number ends here. -/
  done (bs : List UInt8) : Reads Json :=
    match whole negative n with
    | some j => .ok (j, bs)
    | none => behind .numberTooLarge bs

/-- Reads a number behind its sign. -/
def number (negative : Bool) : List UInt8 → Reads Json
  | [] => behind .endInValue []
  | b :: rest =>
    if is '0' b then
      match rest with
      | c :: _ => if isDigit c then ahead .badNumber rest else afterWhole negative 0 0 rest
      | [] => afterWhole negative 0 0 []
    else if isDigit b then
      let (n, spare) := accumulate 0 (b :: rest.takeWhile isDigit)
      afterWhole negative n spare (rest.dropWhile isDigit)
    else behind .badNumber rest

/-! ## Passing over numbers -/

/-- Passes over an exponent behind its letter. -/
def passPower (bs : List UInt8) : Passes :=
  match (exponentSign bs).2 with
  | [] => behind .badNumber []
  | b :: rest => if isDigit b then .ok (rest.dropWhile isDigit) else behind .badNumber rest

/-- Passes over an exponent, if there is one. -/
def passScale : List UInt8 → Passes
  | b :: rest => if marksPower b then passPower rest else .ok (b :: rest)
  | [] => .ok []

/-- Passes over what follows the whole part of a number. -/
def passAfterWhole : List UInt8 → Passes
  | b :: rest =>
    if is '.' b then
      match rest.takeWhile isDigit with
      | [] => ahead .badNumber rest
      | _ => passScale (rest.dropWhile isDigit)
    else passScale (b :: rest)
  | [] => .ok []

/-- Passes over a number behind its sign. -/
def passNumber : List UInt8 → Passes
  | [] => behind .badNumber []
  | b :: rest =>
    if is '0' b then
      match rest with
      | c :: _ => if isDigit c then ahead .badNumber rest else passAfterWhole rest
      | [] => .ok []
    else if isDigit b then passAfterWhole (rest.dropWhile isDigit)
    else behind .badNumber rest

end Reader

end Json

end PodTail
