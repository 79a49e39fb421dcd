import Scrip.Decimal.Basic
import Scrip.Text.Basic
set_option autoImplicit false

/-! # Amounts as they are written

The grammar of a written amount: blanks around it, underscores anywhere, an optional sign,
then digits of any script with at most one point and an optional power of ten; or, in any
letter case, an infinity or a not-a-number, the latter with digits of its own. `Amount.read?`
gives the amount, or nothing for a text outside the grammar or a power of ten out of all bounds.
-/

namespace Scrip

/-- A written amount: a number, an infinity, or a not-a-number, which may be signaling. -/
inductive Amount where
  | finite (d : Decimal)
  | infinite (negative : Bool)
  | nan (signaling : Bool)
deriving DecidableEq, Repr

namespace Amount

/-- The exponent after its letter: an optional sign and at least one digit. -/
def exponent? : List Char → Option Int
  | '-' :: cs => (digits? cs).map fun n => -(n : Int)
  | '+' :: cs => (digits? cs).map fun n => (n : Int)
  | cs => (digits? cs).map fun n => (n : Int)
where
  digits? (cs : List Char) : Option Nat :=
    if cs.isEmpty || !cs.all (·.isDigit) then none else some (Nat.ofDigitChars 10 cs 0)

/-- The greatest power of ten of the first digit of an amount; its opposite is the least one. -/
def powerBound : Int := Nat.pow 10 18 - 1

/-- The least power of ten of the last digit of an amount. -/
def leastPower : Int := -1999999999999999997

/-- Whether the powers of ten in a number are within the bounds of amounts. For the first digit a
bound below counts only where the last digit is out of its own. -/
def isWithinBounds (d : Decimal) : Bool :=
  if d.coefficient = 0 then decide (leastPower ≤ d.exponent) && decide (d.exponent ≤ powerBound)
  else
    let first := Digit.count d.coefficient + d.exponent - 1
    decide (first ≤ powerBound) &&
      (decide (-powerBound ≤ first) || decide (leastPower ≤ d.exponent))

/-- An unsigned number: digits around an optional point, then an optional exponent. -/
def number? (negative : Bool) (cs : List Char) : Option Decimal :=
  let whole := cs.takeWhile (·.isDigit)
  let afterWhole := cs.drop whole.length
  let fraction := match afterWhole with
    | '.' :: r => r.takeWhile (·.isDigit)
    | _ => []
  let rest := match afterWhole with
    | '.' :: r => r.drop fraction.length
    | r => r
  let value (e : Int) : Option Decimal :=
    if whole.isEmpty && fraction.isEmpty then none
    else some ⟨negative, Nat.ofDigitChars 10 (whole ++ fraction) 0, e - fraction.length⟩
  match rest with
  | [] => value 0
  | c :: r => if c == 'e' || c == 'E' then (exponent? r).bind value else none

/-- An amount without its sign. -/
def unsigned? (negative : Bool) (cs : List Char) : Option Amount :=
  let low := cs.map Char.toLower
  if low = "inf".toList || low = "infinity".toList then some (.infinite negative)
  else if low.take 3 = "nan".toList && (low.drop 3).all (·.isDigit) then some (.nan false)
  else if low.take 4 = "snan".toList && (low.drop 4).all (·.isDigit) then some (.nan true)
  else ((number? negative cs).filter isWithinBounds).map .finite

def read? (s : String) : Option Amount :=
  let cs := ((Blank.trim s.toList).filter (· != '_')).map Digit.toAscii
  match cs with
  | '-' :: r => unsigned? true r
  | '+' :: r => unsigned? false r
  | r => unsigned? false r

end Amount

end Scrip
