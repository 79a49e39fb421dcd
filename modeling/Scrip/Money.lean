import Scrip.Decimal.Amount
import Scrip.Error.Failure
set_option autoImplicit false

/-! # Money and credits

Money is counted in cents and bought at a rate of credits per unit of currency. An amount with a
part of a cent is refused, unless decimal arithmetic has lost that part before it is looked for.
Turning cents into credits drops a part of a credit.
-/

namespace Scrip.Money

def centsPerUnit : Nat := 100

/-- The refusal of an amount with a part of a cent. -/
def tooPrecise : Refusal := .invalidAmount "Amount cannot have more than 2 decimal places"

/-- The refusal of an amount under the minimum, given in units of currency. -/
def belowMinimum (minimum : Int) : Refusal :=
  .invalidAmount s!"Minimum top-up amount is {minimum}"

/-- The refusal of an amount that does not pay for one credit. -/
def buysNothing : Refusal := .invalidAmount "Amount is too small to buy any credits"

/-- The cents of a decimal number: the number times one hundred, as a result of decimal
arithmetic, must be whole and fit into its digits. -/
def centsOfDecimal (d : Decimal) : Except Failure Int :=
  match (d.scale centsPerUnit).round with
  | none => .error .hugeDecimal
  | some hundredfold =>
    match hundredfold.quantize 0 (· / ·) with
    | none => .error .undefinedDecimal
    | some c => if hundredfold.isWhole then .ok c.signed else .error (.refused tooPrecise)

/-- The cents of an amount. An infinity has none; a quiet not-a-number is refused like an
amount with a part of a cent. -/
def cents : Amount → Except Failure Int
  | .finite d => centsOfDecimal d
  | .infinite _ => .error .undefinedDecimal
  | .nan true => .error .undefinedDecimal
  | .nan false => .error (.refused tooPrecise)

/-- The credits that `cents` buy at `rate` credits per unit of currency. -/
def credits (cents rate : Int) : Int := Int.fdiv (cents * rate) centsPerUnit

/-- Cents as a text in units of currency with two decimals. -/
def display (cents : Int) : Except Failure String :=
  match ((Decimal.ofInt cents).shift (-2)).round with
  | none => .error .hugeDecimal
  | some units =>
    match units.quantize (-2) Decimal.divEven with
    | none => .error .undefinedDecimal
    | some d => .ok d.plain

/-- Refuses a top-up of less than `minimum` units of currency. -/
def requireMinimum (cents minimum : Int) : Except Refusal Unit :=
  if cents < minimum * centsPerUnit then .error (belowMinimum minimum) else .ok ()

/-- The amounts, in units of currency, that the table of rates shows. -/
def sampleAmounts : List Int := [1, 10, 50, 100]

/-- What one unit of currency buys, with samples. -/
structure Rates where
  creditsPerUnit : Int
  minimumAmount : Int
  currency : String

def Rates.samples (r : Rates) : List (Int × Int) :=
  sampleAmounts.map fun amount => (amount, amount * r.creditsPerUnit)

def Rates.fields (r : Rates) : List (String × Json) :=
  [("rates", .object [
      ("credits_per_unit", .int r.creditsPerUnit),
      ("minimum_amount", .int r.minimumAmount),
      ("currency", .text r.currency)]),
    ("examples", .list (r.samples.map fun s =>
      .object [("amount", .int s.1), ("credits", .int s.2)]))]

end Scrip.Money
