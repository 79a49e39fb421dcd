import Scrip.Service.Credits
import Scrip.Service.Journal
import Scrip.Settings
set_option autoImplicit false

/-! # Top-ups

A top-up is requested with an amount of money, which buys credits at the current rate, and it
stays pending until the payment has been verified outside. Its settlement either adds the credits
that were recorded with the request or marks the top-up failed, and happens at most once.
-/

namespace Scrip.TopUps

open Script

/-- The cents and credits of a requested top-up, if it is acceptable. -/
def quote (settings : Settings) (amount : Amount) : Except Failure (Int × Int) := do
  let cents ← Money.cents amount
  (Money.requireMinimum cents settings.minimumTopupAmount).mapError .refused
  let credits := Money.credits cents settings.creditsPerUnit
  if credits ≤ 0 then .error (.refused Money.buysNothing) else .ok (cents, credits)

def request (settings : Settings) (now : Moment) (account : Int) (amount : Amount)
    (method : String) (reference : Option String) : Script Transaction := do
  let (cents, credits) ← ofExcept (quote settings amount)
  let row ← Journal.appendTopUp account credits cents method reference now
  exec .commit
  return row

def verdict (approved : Bool) : Status := if approved then .completed else .failed

/-- Settles a pending top-up. The first read only tells the account; the state is read again
under the lock. -/
def settle (now : Moment) (id : Int) (approved : Bool) : Script Transaction := do
  let located ← Journal.get id false
  let row ← Journal.updateStatus id (verdict approved) now
  if approved then
    Credits.add located.account (.whole row.amount)
  exec .commit
  return row

end Scrip.TopUps
