import Scrip.Error.Failure
import Scrip.Store.Row
set_option autoImplicit false

/-! # The rules of a purchase

A purchase either commits, with the new transaction and the credits that are left, or is
declined at one of its stages for a reason. What decides is what has been read: an item that cannot
be sold is declined first, then one that the account owns already, then one that the balance does
not cover. The preview of a purchase is made from the same facts.
-/

namespace Scrip.Purchase

/-! ## Outcomes

A decline for lack of credits carries the price and the balance. Each decline has the refusal that
is reported to the caller. -/

/-- The stages of a purchase in order. -/
inductive Stage where
  | validating
  | fundsCheck
  | debiting
  | recording
  | granting
  | committed
deriving DecidableEq, Repr

def Stage.text : Stage → String
  | validating => "validating"
  | fundsCheck => "funds_check"
  | debiting => "debiting"
  | recording => "recording"
  | granting => "granting"
  | committed => "committed"

def Stage.all : List Stage :=
  [.validating, .fundsCheck, .debiting, .recording, .granting, .committed]

def Stage.ofJson (j : Json) : Except Failure Stage :=
  Failure.readWord "PurchaseStage" (fun s => Stage.all.find? (·.text == s)) j

/-- The reasons for a decline. -/
inductive Reason where
  | itemUnavailable
  | alreadyOwned
  | insufficientFunds
  | internalError
deriving DecidableEq, Repr

def Reason.text : Reason → String
  | itemUnavailable => "item_unavailable"
  | alreadyOwned => "already_owned"
  | insufficientFunds => "insufficient_funds"
  | internalError => "internal_error"

def Reason.all : List Reason :=
  [.itemUnavailable, .alreadyOwned, .insufficientFunds, .internalError]

def Reason.ofJson (j : Json) : Except Failure Reason :=
  Failure.readWord "DeclineReason" (fun s => Reason.all.find? (·.text == s)) j

/-- A decline: the stage that declined, why, and the figures where there are any. -/
structure Decline where
  item : Int
  stage : Stage
  reason : Reason
  required : Option Int := none
  available : Option Int := none
deriving DecidableEq, Repr

/-- The refusal that reports a decline. A lack of credits without both figures has none. -/
def Decline.refusal (d : Decline) : Except Failure Refusal :=
  match d.reason with
  | .itemUnavailable => .ok (.itemUnavailable d.item)
  | .alreadyOwned => .ok (.alreadyOwned d.item)
  | .internalError => .ok .purchaseFailed
  | .insufficientFunds =>
    match d.required, d.available with
    | some required, some available => .ok (.insufficientFunds required available)
    | _, _ => .error .wrongType

/-- The failure that a request ends in when its purchase is declined. -/
def Decline.failure (d : Decline) : Failure :=
  match d.refusal with
  | .ok r => .refused r
  | .error e => e

/-- How a purchase ends. -/
inductive Outcome where
  | committed (item transaction remaining : Int)
  | declined (d : Decline)
deriving DecidableEq, Repr

/-! ## Decisions -/

/-- The first stage: the item must be for sale and not owned. -/
def validate (id : Int) (item : Option Item) (owned : Bool) : Option Decline :=
  let unavailable : Decline :=
    ⟨id, .validating, .itemUnavailable, none, none⟩
  match item with
  | none => some unavailable
  | some item =>
    if !item.isForSale then some unavailable
    else if owned then some ⟨id, .validating, .alreadyOwned, none, none⟩
    else none

/-- The second stage: the balance must cover the price. -/
def checkFunds (item : Item) (balance : Int) : Option Decline :=
  if balance < item.price then
    some ⟨item.id, .fundsCheck, .insufficientFunds, some item.price, some balance⟩
  else
    none

/-- Whether a purchase would go through, and the facts that decide it. -/
structure Preview where
  canPurchase : Bool
  alreadyOwned : Bool
  price : Int
  userCredits : Int
  sufficientCredits : Bool
deriving DecidableEq, Repr

def preview (item : Item) (owned : Bool) (balance : Int) : Preview :=
  let sufficient := decide (item.price ≤ balance)
  ⟨!owned && sufficient, owned, item.price, balance, sufficient⟩

def Preview.fields (p : Preview) : List (String × Json) :=
  [("can_purchase", .bool p.canPurchase),
    ("already_owned", .bool p.alreadyOwned),
    ("price", .int p.price),
    ("user_credits", .int p.userCredits),
    ("sufficient_credits", .bool p.sufficientCredits)]

end Scrip.Purchase
