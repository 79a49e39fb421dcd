import Scrip.History.Word
import Scrip.Store.Row
set_option autoImplicit false

/-! # The store

The tables of the ledger, and what can be read from them. Rows stand in the order in which they
were inserted. A new row of a table gets the id after the largest one.
-/

namespace Scrip

structure Store where
  accounts : List Account := []
  items : List Item := []
  logins : List Login := []
  transactions : List Transaction := []
  ownerships : List Ownership := []

namespace Store

/-- The id after the largest of a list, or one if there is none. -/
def nextId (ids : List Int) : Int :=
  match ids.max? with
  | none => 1
  | some n => n + 1

/-! ## Single rows -/

def balance? (s : Store) (account : Int) : Option Int :=
  (s.accounts.find? (·.id == account)).map (·.balance)

def item? (s : Store) (id : Int) : Option Item := s.items.find? (·.id == id)

def transaction? (s : Store) (id : Int) : Option Transaction :=
  s.transactions.find? (·.id == id)

/-- The account of a login that was used after a moment. -/
def login? (s : Store) (sid : String) (after : Moment) : Option Int :=
  (s.logins.find? fun l => l.sid == sid && decide (after < l.lastActiveAt)).map (·.account)

def owns (s : Store) (account item : Int) : Bool :=
  s.ownerships.any fun o => o.account == account && o.item == item

/-! ## Lists -/

/-- The published items by id. -/
def published (s : Store) : List Item :=
  (s.items.filter (·.published)).mergeSort fun a b => decide (a.id ≤ b.id)

def ownedBy (s : Store) (account : Int) : List Ownership :=
  s.ownerships.filter (·.account == account)

def ownedIds (s : Store) (account : Int) : List Int := (s.ownedBy account).map (·.item)

/-- The items that an account owns and that are still in the catalog. -/
def ownedItems (s : Store) (account : Int) : List Item :=
  (s.ownedBy account).filterMap fun o => s.item? o.item

def ownedSubjects (s : Store) (account : Int) : List String :=
  ((s.ownedItems account).filterMap (·.subject)).eraseDups

def ownedLevels (s : Store) (account : Int) : List String :=
  ((s.ownedItems account).filterMap (·.level)).eraseDups

/-- Whether a transaction comes before another one in a listing: later ones first, and of the
same time the one with the larger id. -/
def isNewer (a b : Transaction) : Bool :=
  decide (b.createdAt < a.createdAt) || (a.createdAt == b.createdAt && decide (b.id ≤ a.id))

/-- The published items that an account owns, each with the purchase that paid for it, latest
purchase first. -/
def shelf (s : Store) (account : Int) : List (Item × Transaction) :=
  let entries := (s.ownedBy account).filterMap fun o =>
    match s.item? o.item, s.transaction? o.transaction with
    | some item, some t => if item.published then some (item, t) else none
    | _, _ => none
  entries.mergeSort fun a b => isNewer a.2 b.2

/-- The title of the item of a transaction, if it has one and the item is in the catalog. -/
def titleOf (s : Store) (t : Transaction) : Option String :=
  match t.item with
  | none => none
  | some id => (s.item? id).map (·.title)

/-- The first rows up to a limit; without a limit, or with a negative one, all rows. -/
def upTo {α : Type} (limit : Option Int) (rows : List α) : List α :=
  match limit with
  | none => rows
  | some n => if n < 0 then rows else rows.take n.toNat

/-- The transactions of an account, latest first, with the titles of their items. -/
def history (s : Store) (account : Int) (limit : Option Int) :
    List (Transaction × Option String) :=
  let rows := (s.transactions.filter (·.account == account)).mergeSort isNewer
  upTo limit (rows.map fun t => (t, s.titleOf t))

def isSale (t : Transaction) : Bool :=
  t.kind == Kind.purchase.text && t.status == Status.completed.text

/-- The items of the completed purchases, one for each purchase. -/
def soldItems (s : Store) : List Int := (s.transactions.filter isSale).filterMap (·.item)

/-- The number of completed purchases of each item that has any, by id. -/
def tallies (s : Store) : List (Int × Int) :=
  let sold := s.soldItems
  (sold.eraseDups.mergeSort fun a b => decide (a ≤ b)).map fun id => (id, (sold.count id : Int))

end Store

end Scrip
