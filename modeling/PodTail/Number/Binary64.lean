/-!
# Binary floating point

A `Binary64` is a finite number of the 64-bit binary format: a sign and `mantissa · 2^exponent`. The
mantissa has 53 binary digits, or fewer at `leastExponent`, so that a number other than zero has one
representation. There are two zeros.

`mul?` and `div?` compute the exact result as a fraction of natural numbers and round it once, with
`nearest?`: to the nearest number, and to the even mantissa of two that are equally near. A result
that is too large for the format is `none`; there are no infinities.
-/

set_option autoImplicit false

namespace PodTail

/-- A finite binary floating point number. -/
structure Binary64 where
  negative : Bool
  mantissa : Nat
  exponent : Int
  deriving DecidableEq, Repr

namespace Binary64

/-- One more than the greatest mantissa. -/
def mantissaLimit : Nat := 9007199254740992

/-- The exponent of the numbers nearest to zero. -/
def leastExponent : Int := -1074

/-- The exponent of the greatest numbers. -/
def greatestExponent : Int := 971

/-- Zero with a sign. -/
def zero (negative : Bool) : Binary64 := ⟨negative, 0, leastExponent⟩

/-- Whether a number is zero. -/
def isZero (x : Binary64) : Bool := x.mantissa = 0

/-- The number of the other sign. -/
def neg (x : Binary64) : Binary64 := { x with negative := !x.negative }

/-- The magnitude of a number as a fraction. -/
def fraction (x : Binary64) : Nat × Nat :=
  (x.mantissa <<< x.exponent.toNat, 1 <<< (-x.exponent).toNat)

/-! ## Rounding -/

/-- The whole number nearest to a fraction; of two the even one. -/
def halfEven (num den : Nat) : Nat :=
  let whole := num / den
  let twice := 2 * (num % den)
  if twice < den then whole
  else if den < twice then whole + 1
  else if whole % 2 = 0 then whole
  else whole + 1

/-- The exponent at which the mantissa of a fraction has 53 digits, or the least one. -/
def exponentOf (num den : Nat) : Int :=
  let e : Int := (Nat.log2 num : Int) - (Nat.log2 den : Int) - 52
  let e := if num <<< (-e).toNat < den <<< (e.toNat + 52) then e - 1 else e
  max e leastExponent

/-- The number nearest to a fraction, if that is not too great. -/
def nearest? (negative : Bool) (num den : Nat) : Option Binary64 :=
  if num = 0 then some (zero negative)
  else
    let e := exponentOf num den
    let m := halfEven (num <<< (-e).toNat) (den <<< e.toNat)
    let rounded : Binary64 :=
      if m = mantissaLimit then ⟨negative, mantissaLimit / 2, e + 1⟩ else ⟨negative, m, e⟩
    if greatestExponent < rounded.exponent then none else some rounded

/-- The product of two numbers. -/
def mul? (x y : Binary64) : Option Binary64 :=
  nearest? (x.negative != y.negative) (x.fraction.1 * y.fraction.1) (x.fraction.2 * y.fraction.2)

/-- The quotient of two numbers; there is none by zero. -/
def div? (x y : Binary64) : Option Binary64 :=
  if y.isZero then none
  else
    nearest? (x.negative != y.negative) (x.fraction.1 * y.fraction.2)
      (x.fraction.2 * y.fraction.1)

/-! ## Powers of ten -/

/-- The greatest power of ten that is not too great. -/
def greatestPower : Nat := 308

/-- The number nearest to a power of ten. -/
def power? (k : Nat) : Option Binary64 :=
  nearest? false (Nat.pow 10 k) 1

/-- A number scaled by a power of ten, in one product or quotient where the power is a number, and
otherwise in steps by the greatest one, of which there are at most `n`. -/
def scaleFrom : Nat → Binary64 → Int → Option Binary64
  | 0, x, _ => some x
  | n + 1, x, e =>
    if e.natAbs ≤ greatestPower then
      if 0 ≤ e then (power? e.toNat).bind x.mul? else (power? e.natAbs).bind x.div?
    else if x.isZero then some x
    else if 0 ≤ e then none
    else
      ((power? greatestPower).bind x.div?).bind fun y => scaleFrom n y (e + greatestPower)

/-- The number read from `significand · 10^exponent`. It is rounded before it is scaled and after
each step of scaling, so it may miss the nearest one by a little. Three steps down make zero of any
significand of 64 bits. -/
def scaled? (negative : Bool) (significand : Nat) (exponent : Int) : Option Binary64 :=
  (nearest? negative significand 1).bind fun x => scaleFrom 4 x exponent

end Binary64

end PodTail
