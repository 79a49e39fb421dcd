import Scrip.Text.Basic
set_option autoImplicit false

/-! # Decimal numbers with a limited number of digits

A `Decimal` is a sign, a coefficient and a power of ten, so `1.5` and `1.50` are different
values of one number. Results of arithmetic keep at most `precision` significant digits, and
their powers of ten stay in a range: what does not fit is rounded, a half going to the even
neighbour, and what is too great for the range is no result. `quantize` moves a number onto the
grid of another power of ten and refuses when the result would need more digits than that.
-/

namespace Scrip

/-- The number `± coefficient · 10 ^ exponent`. -/
structure Decimal where
  negative : Bool
  coefficient : Nat
  exponent : Int
deriving DecidableEq, Repr

namespace Decimal

/-- The number of significant digits that arithmetic keeps. -/
def precision : Nat := 28

/-- The quotient rounded to the nearest whole number, a half to the even neighbour. -/
def divEven (n m : Nat) : Nat :=
  let q := n / m
  let r := n % m
  if 2 * r < m then q
  else if m < 2 * r then q + 1
  else if q % 2 = 0 then q else q + 1

def ofInt (n : Int) : Decimal := ⟨decide (n < 0), n.natAbs, 0⟩

def shift (d : Decimal) (k : Int) : Decimal := { d with exponent := d.exponent + k }

/-- The number times a natural number, before rounding. -/
def scale (d : Decimal) (n : Nat) : Decimal := { d with coefficient := d.coefficient * n }

/-- The coefficient on the grid of `10 ^ target`. Digits below the grid are resolved by
`divide`; when none is on the grid or next to it the result is zero. -/
def coefficientAt (d : Decimal) (target : Int) (divide : Nat → Nat → Nat) : Nat :=
  if target ≤ d.exponent then d.coefficient * Nat.pow 10 (d.exponent - target).toNat
  else
    let k := (target - d.exponent).toNat
    if Digit.count d.coefficient < k then 0 else divide d.coefficient (Nat.pow 10 k)

/-- The power of ten of the first digit, up to which arithmetic has results. -/
def greatestPower : Int := 999999

/-- The least power of ten of a last digit in a result. -/
def leastExponent : Int := -1000026

/-- The greatest power of ten of the last of `precision` digits in a result. -/
def greatestExponent : Int := greatestPower - (precision - 1)

/-- The number as a result of arithmetic: on the finest grid that `precision` digits and the
range of exponents leave, or nothing when it is too great. -/
def round (d : Decimal) : Option Decimal :=
  if d.coefficient = 0 then
    some { d with exponent := min (max d.exponent leastExponent) greatestPower }
  else
    let last := Digit.count d.coefficient + d.exponent - precision
    let target := max last leastExponent
    if greatestExponent < last then none
    else if target ≤ d.exponent then some d
    else
      let c := d.coefficientAt target divEven
      if Digit.count c ≤ precision then some ⟨d.negative, c, target⟩
      else if greatestExponent < target + 1 then none
      else some ⟨d.negative, c / 10, target + 1⟩

/-- The number on the grid of `10 ^ target`, or nothing when it needs more than `precision`
digits there. Zero is on every grid. -/
def quantize (d : Decimal) (target : Int) (divide : Nat → Nat → Nat) : Option Decimal :=
  if d.coefficient = 0 then some { d with exponent := target }
  else if (precision : Int) < Digit.count d.coefficient + (d.exponent - target) then none
  else
    let c := d.coefficientAt target divide
    if Digit.count c ≤ precision then some ⟨d.negative, c, target⟩ else none

def isWhole (d : Decimal) : Bool :=
  if 0 ≤ d.exponent then true
  else
    d.coefficient == 0 ||
      (let k := (-d.exponent).toNat
       decide (k ≤ Digit.count d.coefficient) && d.coefficient % Nat.pow 10 k == 0)

def signed (d : Decimal) : Int := if d.negative then -(d.coefficient : Int) else d.coefficient

/-- The plain decimal text: sign, digits, and a point when there are decimals. -/
def plain (d : Decimal) : String :=
  let digits := Nat.toDigits 10 d.coefficient
  let body :=
    if 0 ≤ d.exponent then digits ++ List.replicate d.exponent.toNat '0'
    else
      let k := (-d.exponent).toNat
      let padded := List.replicate (k + 1 - digits.length) '0' ++ digits
      padded.take (padded.length - k) ++ '.' :: padded.drop (padded.length - k)
  String.ofList (if d.negative then '-' :: body else body)

end Decimal

end Scrip
