import Scrip.History.Record
set_option autoImplicit false

/-! # Statistics of a history

Totals over the records of an account, collected in one pass. Completed top-ups add to what was
topped up, in credits and in cents; pending top-ups are counted; completed purchases add to
what was spent and are counted, those of the current month apart as well. The month of a record
and the current month are the ones that their own dates show.
-/

namespace Scrip

/-- The totals of a history. -/
structure Stats where
  toppedUp : Int := 0
  spent : Int := 0
  pendingCount : Nat := 0
  monthPurchases : Nat := 0
  itemsPurchased : Nat := 0
  moneySpentCents : Int := 0
deriving DecidableEq, Repr

namespace Stats

def zero : Stats := ⟨0, 0, 0, 0, 0, 0⟩

def add (month : Int × Nat) (s : Stats) (r : Record) : Stats :=
  match r.kind, r.status with
  | .topup, .completed =>
    { s with
      toppedUp := s.toppedUp + r.amount
      moneySpentCents := s.moneySpentCents + r.moneyCents.getD 0 }
  | .topup, .pending => { s with pendingCount := s.pendingCount + 1 }
  | .topup, .failed => s
  | .purchase, .completed =>
    { s with
      spent := s.spent + r.amount
      itemsPurchased := s.itemsPurchased + 1
      monthPurchases :=
        if r.createdAt.month = month then s.monthPurchases + 1 else s.monthPurchases }
  | .purchase, _ => s

/-- The totals of a list of records, where `now` tells the current month. -/
def ofRecords (records : List Record) (now : DateTime) : Stats :=
  records.foldl (add now.month) zero

def view (s : Stats) : Json :=
  .object [
    ("total_topped_up", .int s.toppedUp),
    ("total_spent", .int s.spent),
    ("pending_count", .int s.pendingCount),
    ("this_month_purchase_count", .int s.monthPurchases),
    ("items_purchased", .int s.itemsPurchased),
    ("total_money_spent_cents", .int s.moneySpentCents)]

end Stats

end Scrip
