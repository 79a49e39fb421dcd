import Scrip.History.Word
import Scrip.Money
import Scrip.Text.Basic
set_option autoImplicit false

/-! # Records of an account's history

One entry of the history of an account: a transaction with the title of the item that was
bought, its description for display, and its fields in a listing.
-/

namespace Scrip

/-- An entry of a history. -/
structure Record where
  id : Int
  kind : Kind
  amount : Int
  status : Status
  createdAt : DateTime
  item : Option Int := none
  itemTitle : Option String := none
  paymentMethod : Option String := none
  moneyCents : Option Int := none
deriving DecidableEq, Repr

namespace Record

/-- The name of an item that has no title. -/
def numbered (item : Option Int) : String :=
  match item with
  | none => "item #None"
  | some id => s!"item #{id}"

def describe (r : Record) : String :=
  match r.kind with
  | .topup => "Credit top-up via " ++ Text.orElse r.paymentMethod "manual"
  | .purchase =>
    let title := Text.orElse r.itemTitle (numbered r.item)
    if r.status = .failed then "Failed purchase: " ++ title else "Purchased " ++ title

/-- The entry in a listing. It has no form when its cents do not fit decimal arithmetic. -/
def view (r : Record) : Except Failure Json := do
  let money ← match r.moneyCents with
    | none => Except.ok Json.null
    | some c => (Money.display c).map Json.text
  return .object [
    ("id", .int r.id),
    ("type", .text r.kind.text),
    ("amount", .int r.amount),
    ("description", .text r.describe),
    ("date", .text r.createdAt.iso),
    ("status", .text r.status.text),
    ("item_id", Json.ofOption .int r.item),
    ("real_amount", money)]

end Record

end Scrip
