import Scrip.Decimal.Binary
set_option autoImplicit false

/-! # Binary numbers with a given number of digits

A binary number is written with a given number of decimals, or of decimals after the first digit
and a power of ten, or in whichever of these two ways suits a given number of digits. The decimal
closest to the number is taken, of two equally close ones the even.
-/

namespace Scrip.Binary

/-- How a number is written: with a fixed number of decimals, with a power of ten, or in the way
that suits its size. -/
inductive Style where
  | fixed
  | scientific
  | general
deriving DecidableEq, Repr

/-- The number as a whole multiple of `10 ^ (-places)`. -/
def atPlaces (mantissa : Nat) (exponent places : Int) : Nat :=
  let v := ratio mantissa exponent
  if 0 ≤ places then Decimal.divEven (v.1 * Nat.pow 10 places.toNat) v.2
  else Decimal.divEven v.1 (v.2 * Nat.pow 10 (-places).toNat)

/-- The power of ten of the first digit of a number other than zero. -/
def firstPower (mantissa : Nat) (exponent : Int) : Int :=
  let (num, den) := ratio mantissa exponent
  if den ≤ num then (Digit.count (num / den) : Int) - 1
  else -(Digit.count ((den - 1) / num) : Int)

/-- `count` digits of a number, at least one, and the power of ten of the first of them. -/
def significant (mantissa : Nat) (exponent : Int) (count : Nat) : Nat × Int :=
  if mantissa = 0 then (0, 0)
  else
    let p := firstPower mantissa exponent
    let n := atPlaces mantissa exponent (count - 1 - p)
    if n = Nat.pow 10 count then (n / 10, p + 1) else (n, p)

/-- Digits with a point before the last `places` of them. Without decimals the point is written
only if it is `kept`. -/
def pointed (digits places : Nat) (kept : Bool) : List Char :=
  let ds := Nat.toDigits 10 digits
  let padded := List.replicate (places + 1 - ds.length) '0' ++ ds
  let whole := padded.take (padded.length - places)
  if places = 0 && !kept then whole else whole ++ '.' :: padded.drop whole.length

/-- A decimal text without the zeros at its end, and without a point there. -/
def withoutZeros (cs : List Char) : List Char :=
  if cs.contains '.' then
    let r := cs.reverse.dropWhile (· == '0')
    (if r.head? == some '.' then r.drop 1 else r).reverse
  else cs

/-- A power of ten after its letter: a sign and at least two digits. -/
def powerText (p : Int) : List Char :=
  let ds := Nat.toDigits 10 p.natAbs
  'e' :: (if p < 0 then '-' else '+') :: (List.replicate (2 - ds.length) '0' ++ ds)

/-- The text of a nonnegative number in a style. The precision is the number of decimals, for the
general style that of all digits; there the zeros at the end are kept only with the point. -/
def styled (style : Style) (precision : Nat) (kept : Bool) (mantissa : Nat) (exponent : Int) :
    List Char :=
  match style with
  | .fixed => pointed (atPlaces mantissa exponent precision) precision kept
  | .scientific =>
    let (n, p) := significant mantissa exponent (precision + 1)
    pointed n precision kept ++ powerText p
  | .general =>
    let precision := max precision 1
    let (n, p) := significant mantissa exponent precision
    let tidy (cs : List Char) : List Char := if kept then cs else withoutZeros cs
    if p < -4 || (precision : Int) ≤ p then
      tidy (pointed n (precision - 1) kept) ++ powerText p
    else
      tidy (pointed n ((precision : Int) - 1 - p).toNat kept)

end Scrip.Binary
