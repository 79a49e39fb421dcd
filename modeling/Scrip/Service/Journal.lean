import Scrip.History.Stats
import Scrip.Work.Script
set_option autoImplicit false

/-! # The transaction log

Appending to and reading the log of transactions. Top-ups are appended pending, purchases
completed or failed. The only change of a row is the settlement of a pending top-up, and it is
conditional on the state that was read. None of these scripts commits.
-/

namespace Scrip.Journal

open Script

def topUpDraft (account credits cents : Int) (method : String) (reference : Option String)
    (now : Moment) : Draft :=
  { account := account, kind := Kind.topup.text, amount := credits,
    status := Status.pending.text, method := some method, reference := reference,
    cents := some cents, createdAt := now }

def purchaseDraft (account item price : Int) (status : Status) (note : Option String)
    (now : Moment) : Draft :=
  { account := account, kind := Kind.purchase.text, amount := price, item := some item,
    status := status.text, note := note, createdAt := now }

def appendTopUp (account credits cents : Int) (method : String) (reference : Option String)
    (now : Moment) : Script Transaction :=
  exec (.append (topUpDraft account credits cents method reference now))

def appendPurchase (account item price : Int) (status : Status) (note : Option String)
    (now : Moment) : Script Transaction :=
  exec (.append (purchaseDraft account item price status note now))

/-- A transaction, which may be locked until the end of the unit of work. -/
def get (id : Int) (lock : Bool) : Script Transaction := do
  let row ← exec (.find id lock)
  match (row : Option Transaction) with
  | some t => return t
  | none => refuse (.notFound "Transaction" (toString id))

/-- Settles a pending top-up. -/
def updateStatus (id : Int) (new : Status) (now : Moment) : Script Transaction := do
  let row ← get id true
  let current ← ofExcept (Status.read row.status)
  let kind ← ofExcept (Kind.read row.kind)
  require (Status.requireMove id kind current new)
  let moved ← exec (.settle id current.text new.text now)
  if moved then return { row with status := new.text, updatedAt := some now }
  else refuse (.invalidTransition id current.text new.text)

/-- The record of a row of the log. -/
def record (row : Transaction × Option String) : Except Failure Record := do
  let t := row.1
  let kind ← Kind.read t.kind
  let status ← Status.read t.status
  return ⟨t.id, kind, t.amount, status, .bare t.createdAt, t.item, row.2, t.method, t.cents⟩

/-- The history of an account, latest first. -/
def history (account : Int) (limit : Option Int) : Script (List Record) := do
  let rows ← exec (.history account limit)
  ofExcept ((rows : List (Transaction × Option String)).mapM record)

def stats (account : Int) (now : DateTime) : Script Stats := do
  let records ← history account none
  return Stats.ofRecords records now

def purchaseCounts : Script (List (Int × Int)) := exec .tallies

end Scrip.Journal
