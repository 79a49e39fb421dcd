import Scrip.Decimal.Basic
set_option autoImplicit false

/-! # Binary floating point with 53 bits

A number in a JSON text that has a point or an exponent stands for the nearest binary64
number, and such a number is written with the fewest decimal digits that read back to it. Both
directions are exact arithmetic on natural numbers.
-/

namespace Scrip

/-- A binary64 value; a finite one is `± mantissa · 2 ^ exponent`. -/
inductive Binary where
  | finite (negative : Bool) (mantissa : Nat) (exponent : Int)
  | infinite (negative : Bool)
  | nan
deriving DecidableEq, Repr

namespace Binary

/-- The least exponent: that of the subnormal numbers. -/
def leastExponent : Int := -1074

/-- `num · 2 ^ (-q)` and `den`, over a common denominator. -/
def ratioAt (num den : Nat) (q : Int) : Nat × Nat :=
  if 0 ≤ q then (num, den * Nat.pow 2 q.toNat) else (num * Nat.pow 2 (-q).toNat, den)

/-- The exponent at which `num / den` has a mantissa of 53 bits, or the least one. -/
def exponentFor (num den : Nat) : Int :=
  let q : Int := (num.log2 : Int) - den.log2 - 52
  let r := ratioAt num den q
  let q :=
    if r.1 / r.2 < Nat.pow 2 52 then q - 1
    else if Nat.pow 2 53 ≤ r.1 / r.2 then q + 1
    else q
  max q leastExponent

/-- The value nearest to `± num / den`, a tie going to the even mantissa. -/
def ofRatio (negative : Bool) (num den : Nat) : Binary :=
  if num = 0 then .finite negative 0 leastExponent
  else
    let q := exponentFor num den
    let r := ratioAt num den q
    let m := Decimal.divEven r.1 r.2
    let (m, q) := if m = Nat.pow 2 53 then (Nat.pow 2 52, q + 1) else (m, q)
    if 971 < q then .infinite negative else .finite negative m q

def ofDecimal (d : Decimal) : Binary :=
  let size : Int := Digit.count d.coefficient + d.exponent
  if d.coefficient = 0 || size < -400 then .finite d.negative 0 leastExponent
  else if 400 < size then .infinite d.negative
  else if 0 ≤ d.exponent then
    ofRatio d.negative (d.coefficient * Nat.pow 10 d.exponent.toNat) 1
  else
    ofRatio d.negative d.coefficient (Nat.pow 10 (-d.exponent).toNat)

def ofInt (n : Int) : Binary := ofRatio (decide (n < 0)) n.natAbs 1

def ratio (mantissa : Nat) (exponent : Int) : Nat × Nat :=
  if 0 ≤ exponent then (mantissa * Nat.pow 2 exponent.toNat, 1)
  else (mantissa, Nat.pow 2 (-exponent).toNat)

/-- Whether `digits · 10 ^ p` reads back to `mantissa · 2 ^ exponent`: it lies between the
midpoints to the two neighbours, the midpoints themselves included for an even mantissa. -/
def readsBack (mantissa : Nat) (exponent : Int) (digits : Nat) (p : Int) : Bool :=
  let narrow := mantissa == Nat.pow 2 52 && decide (leastExponent < exponent)
  let low := ratio (if narrow then 4 * mantissa - 1 else 4 * mantissa - 2) (exponent - 2)
  let high := ratio (4 * mantissa + 2) (exponent - 2)
  let it := if 0 ≤ p then (digits * Nat.pow 10 p.toNat, 1) else (digits, Nat.pow 10 (-p).toNat)
  if mantissa % 2 = 0 then
    decide (low.1 * it.2 ≤ it.1 * low.2) && decide (it.1 * high.2 ≤ high.1 * it.2)
  else
    decide (low.1 * it.2 < it.1 * low.2) && decide (it.1 * high.2 < high.1 * it.2)

/-- On the grid of `10 ^ p`: the neighbour of the value that reads back to it, the nearer one
if both do. -/
def onGrid (mantissa : Nat) (exponent p : Int) : Option Nat :=
  let v := ratio mantissa exponent
  let g := if 0 ≤ p then (v.1, v.2 * Nat.pow 10 p.toNat) else (v.1 * Nat.pow 10 (-p).toNat, v.2)
  let low := g.1 / g.2
  match readsBack mantissa exponent low p, readsBack mantissa exponent (low + 1) p with
  | true, true => some (Decimal.divEven g.1 g.2)
  | true, false => some low
  | false, true => some (low + 1)
  | false, false => none

/-- The first grid with a hit, from coarse to fine, as digits and a power of ten. -/
def search (mantissa : Nat) (exponent : Int) : Nat → Int → Nat × Int
  | 0, p => ((onGrid mantissa exponent p).getD 0, p)
  | n + 1, p =>
    match onGrid mantissa exponent p with
    | some digits => (digits, p)
    | none => search mantissa exponent n (p - 1)

/-- The shortest decimal digits of a finite nonzero value, with their power of ten. -/
def shortest (mantissa : Nat) (exponent : Int) : Nat × Int :=
  let (num, den) := ratio mantissa exponent
  let size : Int :=
    if den ≤ num then Digit.count (num / den) else 2 - (Digit.count (den / num) : Int)
  search mantissa exponent 20 (size - 1)

/-- The text of digits `ds` with the point after the first `point` of them: positional when
`point` is from -3 to 16, otherwise with an exponent of at least two digits. -/
def layout (ds : List Char) (point : Int) : List Char :=
  if 16 < point || point < -3 then
    let e := point - 1
    let fraction := match ds.drop 1 with
      | [] => []
      | r => '.' :: r
    let ed := Nat.toDigits 10 e.natAbs
    ds.take 1 ++ fraction ++ 'e' :: (if e < 0 then '-' else '+') ::
      (List.replicate (2 - ed.length) '0' ++ ed)
  else if point ≤ 0 then
    '0' :: '.' :: (List.replicate (-point).toNat '0' ++ ds)
  else
    let k := point.toNat
    if ds.length ≤ k then ds ++ List.replicate (k - ds.length) '0' ++ ['.', '0']
    else ds.take k ++ '.' :: ds.drop k

/-- The text of a value: the fewest digits that read back to it. -/
def text : Binary → String
  | .nan => "nan"
  | .infinite negative => if negative then "-inf" else "inf"
  | .finite negative m q =>
    let body :=
      if m = 0 then ['0', '.', '0']
      else
        let (digits, p) := shortest m q
        let ds := Nat.toDigits 10 digits
        let kept := (ds.reverse.dropWhile (· == '0')).reverse
        layout kept (ds.length + p)
    String.ofList (if negative then '-' :: body else body)

def isZero : Binary → Bool
  | .finite _ m _ => m == 0
  | _ => false

def whole? : Binary → Option Int
  | .finite negative m q =>
    let (num, den) := ratio m q
    if num % den = 0 then
      some (if negative then -((num / den : Nat) : Int) else ((num / den : Nat) : Int))
    else none
  | _ => none

end Binary

end Scrip
