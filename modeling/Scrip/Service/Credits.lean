import Scrip.Work.Script
set_option autoImplicit false

/-! # Credits

Reading and changing the balance of an account. Amounts are positive whole numbers. A lack of
credits is an answer, not a failure, and changes nothing. None of these scripts commits.
-/

namespace Scrip.Credits

open Script

/-- An answer that is missing only when there is no such account. -/
def found (account : Int) (balance : Option Int) : Script Int :=
  match balance with
  | some n => return n
  | none => refuse (.accountNotFound account)

def balance (account : Int) : Script Int := do
  let n ← exec (.balance account)
  found account n

/-- The balance of an account that stays locked until the end of the unit of work. -/
def lockBalance (account : Int) : Script Int := do
  let n ← exec (.lockBalance account)
  found account n

def add (account : Int) (amount : Quantity) : Script Unit := do
  let done ← exec (.credit account amount)
  if done then return () else refuse (.accountNotFound account)

/-- Takes credits from an account if its balance covers them, and tells whether it did. -/
def deduct (account : Int) (amount : Quantity) : Script Bool := do
  let done ← exec (.debit account amount)
  if done then return true
  else
    let _ ← balance account
    return false

end Scrip.Credits
