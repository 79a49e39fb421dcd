import Scrip.Json.Basic
import Scrip.Time.DateTime
set_option autoImplicit false

/-! # Refusals

Why an operation of the ledger was refused. Each reason has a message, a code, a category, a
severity and an HTTP status; some carry figures or name the row that they are about. A refusal
is reported together with a `Context`: the time, and the account, item and transaction that
the report is about.
-/

namespace Scrip

/-- How grave a refusal is. -/
inductive Severity where
  | info
  | warning
  | error
  | critical
deriving DecidableEq, Repr

def Severity.text : Severity → String
  | info => "info"
  | warning => "warning"
  | error => "error"
  | critical => "critical"

/-- What a refusal is about. -/
inductive Category where
  | validation
  | authentication
  | businessRule
  | resourceNotFound
  | database
  | internal
  | conflict
  | authorization
deriving DecidableEq, Repr

def Category.text : Category → String
  | validation => "validation"
  | authentication => "authentication"
  | businessRule => "business_rule"
  | resourceNotFound => "resource_not_found"
  | database => "database"
  | internal => "internal"
  | conflict => "conflict"
  | authorization => "authorization"

/-- The reasons for a refusal. -/
inductive Refusal where
  | unauthenticated (message : String)
  | notEntitled (item : Int)
  | itemUnavailable (item : Int)
  | alreadyOwned (item : Int)
  | insufficientFunds (required available : Int)
  | purchaseFailed
  | invalidAmount (message : String)
  | invalidTransition (transaction : Int) (current requested : String)
  | notFound (kind id : String)
  | accountNotFound (account : Int)
  | database (message operation : String)
deriving DecidableEq, Repr

namespace Refusal

/-! ## The texts of the reasons -/

/-- The message of a caller who gave no reason for being unknown. -/
def notAuthenticated : String := "User not authenticated"

/-- The message to the caller. It names figures and identifiers, and nothing internal. -/
def message : Refusal → String
  | unauthenticated m => m
  | notEntitled _ => "You do not own this item."
  | itemUnavailable item => s!"Item {item} is not available."
  | alreadyOwned _ => "You already own this item."
  | insufficientFunds required available =>
    s!"Insufficient credits. You need {required} but only have {available}."
  | purchaseFailed => "The purchase could not be completed. No credits were charged."
  | invalidAmount m => m
  | invalidTransition transaction current requested =>
    s!"Transaction {transaction} cannot move from '{current}' to '{requested}'."
  | notFound kind id => s!"{kind} '{id}' not found"
  | accountNotFound account => s!"Account '{account}' not found"
  | database m operation => s!"Database {operation} failed: {m}"

/-- The code by which clients tell refusals apart. -/
def code : Refusal → String
  | unauthenticated _ => "UNAUTHENTICATED"
  | notEntitled _ => "NOT_ENTITLED"
  | itemUnavailable _ => "ITEM_UNAVAILABLE"
  | alreadyOwned _ => "ALREADY_OWNED"
  | insufficientFunds _ _ => "INSUFFICIENT_FUNDS"
  | purchaseFailed => "INTERNAL_ERROR"
  | invalidAmount _ => "INVALID_AMOUNT"
  | invalidTransition _ _ _ => "INVALID_STATUS_TRANSITION"
  | notFound _ _ => "RESOURCE_NOT_FOUND"
  | accountNotFound _ => "RESOURCE_NOT_FOUND"
  | database _ _ => "DATABASE_ERROR"

/-- The name of the kind of refusal, as reports and notes give it. -/
def name : Refusal → String
  | unauthenticated _ => "UnauthenticatedError"
  | notEntitled _ => "NotEntitledError"
  | itemUnavailable _ => "ItemUnavailableError"
  | alreadyOwned _ => "AlreadyOwnedError"
  | insufficientFunds _ _ => "InsufficientFundsError"
  | purchaseFailed => "PurchaseFailedError"
  | invalidAmount _ => "InvalidAmountError"
  | invalidTransition _ _ _ => "InvalidStatusTransitionError"
  | notFound _ _ => "ResourceNotFoundError"
  | accountNotFound _ => "AccountNotFoundError"
  | database _ _ => "DatabaseError"

def category : Refusal → Category
  | unauthenticated _ => .authentication
  | notEntitled _ => .authorization
  | itemUnavailable _ => .resourceNotFound
  | alreadyOwned _ => .businessRule
  | insufficientFunds _ _ => .businessRule
  | purchaseFailed => .internal
  | invalidAmount _ => .validation
  | invalidTransition _ _ _ => .conflict
  | notFound _ _ => .resourceNotFound
  | accountNotFound _ => .resourceNotFound
  | database _ _ => .database

/-- The severity: a warning for what a caller may run into, critical for our own failures. -/
def severity : Refusal → Severity
  | unauthenticated _ => .warning
  | notEntitled _ => .warning
  | itemUnavailable _ => .warning
  | alreadyOwned _ => .warning
  | insufficientFunds _ _ => .warning
  | purchaseFailed => .critical
  | invalidAmount _ => .error
  | invalidTransition _ _ _ => .error
  | notFound _ _ => .error
  | accountNotFound _ => .error
  | database _ _ => .critical

def status : Refusal → Nat
  | unauthenticated _ => 401
  | notEntitled _ => 403
  | itemUnavailable _ => 404
  | alreadyOwned _ => 400
  | insufficientFunds _ _ => 400
  | purchaseFailed => 500
  | invalidAmount _ => 400
  | invalidTransition _ _ _ => 409
  | notFound _ _ => 404
  | accountNotFound _ => 404
  | database _ _ => 503

/-- Whether the refusal says that a named resource does not exist. -/
def isNotFound : Refusal → Bool
  | notFound _ _ => true
  | accountNotFound _ => true
  | _ => false

/-! ## Reporting -/

/-- What a report of a refusal says beside the refusal itself. -/
structure Context where
  timestamp : DateTime
  account : Option Int := none
  item : Option Int := none
  transaction : Option Int := none
  details : Option Json := none

def Context.at (t : DateTime) : Context := ⟨t, none, none, none, none⟩

/-- The details of a report; where nothing is in them they are shown as an empty object. -/
def Context.shownDetails (c : Context) : Json :=
  match c.details with
  | none => .object []
  | some j => if j.isVoid then .object [] else j

def figures (required available : Int) : Json :=
  .object [("required", .int required), ("available", .int available),
    ("shortfall", .int (required - available))]

/-- The context of a report: the row that the refusal is about and its figures replace what
the given context has in their place. -/
def inContext (r : Refusal) (c : Context) : Context :=
  match r with
  | notEntitled item => { c with item := some item }
  | itemUnavailable item => { c with item := some item }
  | alreadyOwned item => { c with item := some item }
  | insufficientFunds required available =>
    { c with details := some (figures required available) }
  | invalidTransition transaction _ _ => { c with transaction := some transaction }
  | accountNotFound account => { c with account := some account }
  | _ => c

/-- The body of the answer to a refused request. -/
def envelope (r : Refusal) (c : Context) : Json :=
  let c := r.inContext c
  .object [("success", .bool false),
    ("error", .object [
      ("code", .text r.code),
      ("message", .text r.message),
      ("category", .text r.category.text),
      ("severity", .text r.severity.text),
      ("timestamp", .text c.timestamp.iso),
      ("details", c.shownDetails)])]

end Refusal

end Scrip
