import Scrip.Text.Basic
import Scrip.Time.DateTime
set_option autoImplicit false

/-! # Rows

The rows of the catalog, and those that the ledger keeps beside it. An account has a balance of
credits. The transaction log has a row for each top-up and each purchase; its kind and state are
words. An ownership entitles an account to an item and names the purchase that paid for it. A
login ties a credential to an account.
-/

namespace Scrip

/-! ## The catalog

What can be bought for credits. The catalog belongs to another system, which may change a
price, a title or whether an item is published at any time; the ledger only reads it. -/

structure Item where
  id : Int
  title : String
  price : Int
  subject : Option String := none
  level : Option String := none
  published : Bool
  publishedAt : Option DateTime := none
  fileRef : Option String := none
deriving DecidableEq, Repr

namespace Item

def shownSubject (item : Item) : String := Text.orElse item.subject "General"

def shownLevel (item : Item) : String := Text.orElse item.level "All Levels"

/-- Whether an item can be sold at all: it is published and has a positive price. -/
def isForSale (item : Item) : Bool := item.published && decide (0 < item.price)

end Item

/-! ## The rows of the ledger -/

structure Account where
  id : Int
  balance : Int
deriving DecidableEq, Repr

/-- A row of the transaction log. `note` says internally why a purchase failed. -/
structure Transaction where
  id : Int
  account : Int
  kind : String
  amount : Int
  item : Option Int := none
  status : String
  method : Option String := none
  reference : Option String := none
  cents : Option Int := none
  note : Option String := none
  createdAt : Moment
  updatedAt : Option Moment := none
deriving DecidableEq, Repr

/-- An entitlement of an account to an item. -/
structure Ownership where
  id : Int
  account : Int
  item : Int
  transaction : Int
deriving DecidableEq, Repr

/-- A login: a credential, its account, and when it was last used. -/
structure Login where
  sid : String
  account : Int
  lastActiveAt : Moment
deriving DecidableEq, Repr

/-- A transaction that is to be appended: a row without its id. -/
structure Draft where
  account : Int
  kind : String
  amount : Int
  item : Option Int := none
  status : String
  method : Option String := none
  reference : Option String := none
  cents : Option Int := none
  note : Option String := none
  createdAt : Moment
deriving DecidableEq, Repr

def Draft.row (d : Draft) (id : Int) : Transaction :=
  { id := id, account := d.account, kind := d.kind, amount := d.amount, item := d.item,
    status := d.status, method := d.method, reference := d.reference, cents := d.cents,
    note := d.note, createdAt := d.createdAt, updatedAt := none }

end Scrip
