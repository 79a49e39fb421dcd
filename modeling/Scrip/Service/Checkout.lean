import Scrip.Purchase.Rules
import Scrip.Service.Credits
import Scrip.Service.Journal
import Scrip.Service.Registry
import Scrip.Work.Script
set_option autoImplicit false

/-! # Checkout

The purchase of an item: validation and the check of funds on a locked account, then the debit,
the record and the ownership, which are committed together. Whatever fails among the writes is
compensated by a rollback, reported as a decline without detail, and noted in a failed purchase
of the log. An ownership that another worker has created in the meantime is reported as such.
A cancellation is not compensated: it leaves the unit of work, whose end discards the writes.
-/

namespace Scrip.Checkout

open Script Purchase

/-- The item that may be bought, or why it may not. -/
def choose (id : Int) (item : Option Item) (owned : Bool) (balance : Int) :
    Except Decline Item :=
  match validate id item owned with
  | some d => .error d
  | none =>
    match item with
    | none => .error ⟨id, .validating, .itemUnavailable, none, none⟩
    | some i =>
      match checkFunds i balance with
      | some d => .error d
      | none => .ok i

/-- The end of the writes of a purchase: an outcome, or a failure and its stage. -/
abbrev Ending : Type := Except (Stage × Failure) Outcome

/-- The balance no longer covered the price when it was to be debited. -/
def shortfall (account : Int) (item : Item) : Script Ending := do
  let found ← (do
    exec .rollback
    Credits.balance account : Script Int).attempt
  match found with
  | .error e => return .error (.debiting, e)
  | .ok available =>
    return .ok (.declined
      ⟨item.id, .debiting, .insufficientFunds, some item.price, some available⟩)

/-- The ownership of a recorded purchase, and the commit. -/
def entitle (account : Int) (item : Item) (t : Transaction) : Script Ending := do
  let left ← (do
    let _ ← Registry.grant account item.id t.id
    let remaining ← Credits.balance account
    exec .commit
    return remaining : Script Int).attempt
  match left with
  | .error e => return .error (.granting, e)
  | .ok remaining => return .ok (.committed item.id t.id remaining)

/-- The writes of a purchase. -/
def write (now : Moment) (account : Int) (item : Item) : Script Ending := do
  match ← (Credits.deduct account (.whole item.price)).attempt with
  | .error e => return .error (.debiting, e)
  | .ok false => shortfall account item
  | .ok true =>
    match ← (Journal.appendPurchase account item.id item.price .completed none now).attempt with
    | .error e => return .error (.recording, e)
    | .ok t => entitle account item t

/-- Undoes the writes of a purchase. When the rollback fails at the storage, the connection is
given up instead. -/
def compensate : Script Unit := do
  match ← (exec .rollback).attempt with
  | .ok _ => return ()
  | .error e => if e.isStorage then exec .invalidate else fail e

/-- The note of a failure at a stage. -/
def failureNote (stage : Stage) (e : Failure) : String :=
  stage.text ++ ": " ++ e.name ++ ": " ++ e.describe

/-- Notes the failure in the log, if that is possible, and declines without detail. -/
def giveUp (now : Moment) (account : Int) (item : Item) (stage : Stage) (e : Failure) :
    Script Outcome := do
  let noted ← (do
    let _ ← Journal.appendPurchase account item.id item.price .failed
      (some (failureNote stage e)) now
    exec .commit : Script Unit).attempt
  match noted with
  | .ok _ => pure ()
  | .error e => if e.isCancellation then fail e else exec .rollback
  return .declined ⟨item.id, stage, .internalError, none, none⟩

/-- Ends a purchase whose writes have failed. -/
def recover (now : Moment) (account : Int) (item : Item) (stage : Stage) (e : Failure) :
    Script Outcome := do
  if e.isCancellation then fail e
  else
    compensate
    if e.isIntegrity && stage == .granting then
      return .declined ⟨item.id, .validating, .alreadyOwned, none, none⟩
    else giveUp now account item stage e

/-- The purchase of an item inside a unit of work. -/
def buy (now : Moment) (account id : Int) : Script Outcome := do
  let item ← exec (.item id)
  let balance ← Credits.lockBalance account
  let owned ← Registry.owns account id
  match choose id item owned balance with
  | .error d =>
    exec .rollback
    return .declined d
  | .ok item =>
    match ← write now account item with
    | .ok outcome => return outcome
    | .error (stage, e) => recover now account item stage e

/-- The purchase of an item in a unit of work of its own. -/
def purchase (now : Moment) (account id : Int) : Script Outcome :=
  unitOfWork (buy now account id)

/-- The preview of a purchase, in a unit of work of its own. An owned item has one too. -/
def preview (account id : Int) : Script Preview := unitOfWork do
  let item ← exec (.item id)
  let owned ← Registry.owns account id
  match (item : Option Item) with
  | none => refuse (.itemUnavailable id)
  | some i =>
    if i.isForSale then
      let balance ← Credits.balance account
      return Purchase.preview i owned balance
    else refuse (.itemUnavailable id)

end Scrip.Checkout
