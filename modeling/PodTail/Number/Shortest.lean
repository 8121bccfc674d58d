import PodTail.Number.Binary64

/-!
# Floating point numbers in decimal

`Binary64.shortest` is the decimal fraction with the fewest digits that rounds to the number, and of
these the nearest one. A fraction rounds to the number if it lies between the midpoints to the two
neighbours (`around`); the midpoints do too where the mantissa is even.

`Binary64.text` writes these digits with a point if that takes sixteen digits before it at most or
four zeros behind it at most, and with an exponent otherwise.
-/

set_option autoImplicit false

namespace PodTail

namespace Binary64

/-! ## The digits -/

/-- A decimal fraction, `digits · 10^exponent`. -/
structure Decimal where
  digits : Nat
  exponent : Int
  deriving DecidableEq, Repr

/-- The midpoint below a number, the number, and the midpoint above it, in quarters of the last
place of its mantissa. The gap below the first number with an exponent is half as wide. -/
def around (x : Binary64) : Nat × Nat × Nat :=
  let gap := if x.mantissa = mantissaLimit / 2 ∧ leastExponent < x.exponent then 1 else 2
  (4 * x.mantissa - gap, 4 * x.mantissa, 4 * x.mantissa + 2)

/-- The fraction with the given exponent that is nearest to a number, among those that are nearest
to it and to no other number. -/
def atExponent? (x : Binary64) (k : Int) : Option Decimal :=
  let (below, middle, above) := x.around
  let e := x.exponent - 2
  let unit := Nat.pow 10 k.toNat <<< (-e).toNat
  let scale := fun (n : Nat) => (n <<< e.toNat) * Nat.pow 10 (-k).toNat
  let inclusive := x.mantissa % 2 = 0
  let least :=
    if inclusive then (scale below + unit - 1) / unit else scale below / unit + 1
  let greatest :=
    if inclusive then scale above / unit else (scale above - 1) / unit
  if least ≤ greatest then
    some ⟨max least (min greatest (halfEven (scale middle) unit)), k⟩
  else none

/-- More powers of ten than stand between a number and the last of its shortest digits. -/
def span : Nat := 24

/-- The shortest fraction that is nearest to a number. -/
def shortest (x : Binary64) : Decimal :=
  let top : Int := ((Nat.log2 x.mantissa : Int) + x.exponent) * 30103 / 100000 + 2
  ((List.range span).findSome? fun (i : Nat) => x.atExponent? (top - i)).getD ⟨0, 0⟩

/-! ## The text -/

/-- The text of a decimal fraction with at least one digit that is not zero. -/
def Decimal.text (d : Decimal) : String :=
  let shown := (toString d.digits).toList
  let point : Int := shown.length + d.exponent
  let zeros := fun (n : Int) => List.replicate n.toNat '0'
  String.ofList <|
    if 0 ≤ d.exponent ∧ point ≤ 16 then shown ++ zeros d.exponent ++ ['.', '0']
    else if 0 < point ∧ point ≤ 16 then
      shown.take point.toNat ++ '.' :: shown.drop point.toNat
    else if -5 < point ∧ point ≤ 0 then '0' :: '.' :: (zeros (-point) ++ shown)
    else
      let head :=
        match shown with
        | first :: second :: more => first :: '.' :: second :: more
        | _ => shown
      let sign := if 0 < point then '+' else '-'
      head ++ 'e' :: sign :: (toString (point - 1).natAbs).toList

/-- The text of a number. -/
def text (x : Binary64) : String :=
  (if x.negative then "-" else "") ++ (if x.isZero then "0.0" else x.shortest.text)

end Binary64

end PodTail
