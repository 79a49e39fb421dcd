import Scrip.Service.Checkout
import Scrip.Service.Identity
import Scrip.Service.Suggestions
import Scrip.Service.TopUps
set_option autoImplicit false

/-! # Operations

Every operation of the ledger as data, with the script that carries it out. A purchase and its
preview open a unit of work of their own; every other operation runs in a unit of work that is
given, alone or together with further ones.
-/

namespace Scrip

inductive Operation where
  | getBalance (account : Int)
  | lockBalance (account : Int)
  | addCredits (account : Int) (amount : Quantity)
  | deductCredits (account : Int) (amount : Quantity)
  | resolve (credential : String) (ttlSeconds : Int) (now : Moment)
  | purchase (account item : Int)
  | preview (account item : Int)
  | requestTopUp (account : Int) (amount : String) (method : String)
      (reference : Option String)
  | settle (transaction : Int) (approved : Bool)
  | appendTopUp (account credits cents : Int) (method : String) (reference : Option String)
  | appendPurchase (account item price : Int) (status : String) (note : Option String)
  | getTransaction (transaction : Int)
  | updateStatus (transaction : Int) (status : String)
  | history (account : Int) (limit : Option Int)
  | stats (account : Int) (now : DateTime)
  | purchaseCounts
  | owns (account item : Int)
  | grant (account item transaction : Int)
  | signals (account : Int)
  | shelf (account : Int)
  | download (account item : Int)
  | getItem (item : Int)
  | published
  | recommend (account limit : Int)
deriving DecidableEq, Repr

inductive Answer where
  | nothing
  | number (n : Int)
  | verdict (b : Bool)
  | caller (c : Identity.Caller)
  | outcome (o : Purchase.Outcome)
  | preview (p : Purchase.Preview)
  | transaction (t : Transaction)
  | records (rs : List Record)
  | stats (s : Stats)
  | counts (cs : List (Int × Int))
  | ownership (o : Ownership)
  | signals (owned : List Int) (subjects levels : List String)
  | shelf (es : List Registry.ShelfEntry)
  | download (d : Registry.Download)
  | item (i : Option Item)
  | items (is : List Item)
  | picks (ps : List Pick)

namespace Operation

open Script

def amountOf (s : String) : Except Failure Amount :=
  match Amount.read? s with
  | some a => .ok a
  | none => .error .undefinedDecimal

def script (settings : Settings) (now : Moment) : Operation → Script Answer
  | getBalance account => do
    let n ← Credits.balance account
    return .number n
  | lockBalance account => do
    let n ← Credits.lockBalance account
    return .number n
  | addCredits account amount => do
    Credits.add account amount
    return .nothing
  | deductCredits account amount => do
    let b ← Credits.deduct account amount
    return .verdict b
  | resolve credential ttlSeconds now => do
    let c ← Identity.resolve ttlSeconds now credential
    return .caller c
  | purchase account item => do
    let o ← Checkout.purchase now account item
    return .outcome o
  | preview account item => do
    let p ← Checkout.preview account item
    return .preview p
  | requestTopUp account amount method reference => do
    let a ← ofExcept (amountOf amount)
    let t ← TopUps.request settings now account a method reference
    return .transaction t
  | settle transaction approved => do
    let t ← TopUps.settle now transaction approved
    return .transaction t
  | appendTopUp account credits cents method reference => do
    let t ← Journal.appendTopUp account credits cents method reference now
    return .transaction t
  | appendPurchase account item price status note => do
    let s ← ofExcept (Status.read status)
    let t ← Journal.appendPurchase account item price s note now
    return .transaction t
  | getTransaction transaction => do
    let t ← Journal.get transaction false
    return .transaction t
  | updateStatus transaction status => do
    let s ← ofExcept (Status.read status)
    let t ← Journal.updateStatus transaction s now
    return .transaction t
  | history account limit => do
    let rs ← Journal.history account limit
    return .records rs
  | stats account now => do
    let s ← Journal.stats account now
    return .stats s
  | purchaseCounts => do
    let cs ← Journal.purchaseCounts
    return .counts cs
  | owns account item => do
    let b ← Registry.owns account item
    return .verdict b
  | grant account item transaction => do
    let o ← Registry.grant account item transaction
    return .ownership o
  | signals account => do
    let owned ← Registry.ownedIds account
    let subjects ← Registry.subjects account
    let levels ← Registry.levels account
    return .signals owned subjects levels
  | shelf account => do
    let es ← Registry.shelf account
    return .shelf es
  | download account item => do
    let d ← Registry.download account item
    return .download d
  | getItem item => do
    let i ← exec (.item item)
    return .item i
  | published => do
    let is ← exec .published
    return .items is
  | recommend account limit => do
    let ps ← Suggestions.recommend account limit
    return .picks ps

/-- Whether an operation is offered to callers. The others are single steps of those that are. -/
def isOffered : Operation → Bool
  | addCredits _ _ => false
  | deductCredits _ _ => false
  | appendTopUp _ _ _ _ _ => false
  | appendPurchase _ _ _ _ _ => false
  | updateStatus _ _ => false
  | grant _ _ _ => false
  | _ => true

/-- Whether an operation opens a unit of work of its own. -/
def isWhole : Operation → Bool
  | purchase _ _ => true
  | preview _ _ => true
  | _ => false

/-- An operation as a complete piece of work, which is committed at its end. -/
def whole (settings : Settings) (now : Moment) (op : Operation) : Script Answer :=
  if op.isWhole then op.script settings now else committing (op.script settings now)

/-- Operations one after another in one unit of work, which is committed at its end or
rolled back. -/
def together (settings : Settings) (now : Moment) (ops : List Operation) (keep : Bool) :
    Script (List Answer) := unitOfWork do
  let answers ← ops.mapM (script settings now)
  if keep then exec .commit else exec .rollback
  return answers

/-- Operations one after another, each for itself, with what each ended in. -/
def each (settings : Settings) (now : Moment) :
    List Operation → Script (List (Except Failure Answer))
  | [] => return []
  | op :: ops => do
    let r ← (op.whole settings now).attempt
    let rs ← each settings now ops
    return r :: rs

end Operation

end Scrip
