import Scrip.Work.Script
set_option autoImplicit false

/-! # The registry of ownerships

Who owns which item, what an account bought before, its shelf of items, and where an owner finds
the file of an item.
-/

namespace Scrip.Registry

open Script

def owns (account item : Int) : Script Bool := exec (.owns account item)

def grant (account item transaction : Int) : Script Ownership :=
  exec (.grant account item transaction)

def ownedIds (account : Int) : Script (List Int) := exec (.ownedIds account)

def subjects (account : Int) : Script (List String) := exec (.ownedSubjects account)

def levels (account : Int) : Script (List String) := exec (.ownedLevels account)

structure ShelfEntry where
  id : Int
  title : String
  subject : String
  level : String
  purchasedAt : Moment
  price : Int
deriving DecidableEq, Repr

/-- The entry of an item and the purchase that paid for it. -/
def ShelfEntry.of (e : Item × Transaction) : ShelfEntry :=
  ⟨e.1.id, e.1.title, e.1.shownSubject, e.1.shownLevel, e.2.createdAt, e.2.amount⟩

/-- The path under which the file of an item is found. -/
def downloadPath (item : Int) : String := s!"/api/v1/purchases/{item}/download"

def ShelfEntry.view (e : ShelfEntry) : Json :=
  .object [
    ("id", .int e.id),
    ("title", .text e.title),
    ("subject", .text e.subject),
    ("level", .text e.level),
    ("purchase_date", .text e.purchasedAt.iso),
    ("price", .int e.price),
    ("download_ref", .text (downloadPath e.id))]

/-- The published items that an account owns, latest purchase first. -/
def shelf (account : Int) : Script (List ShelfEntry) := do
  let rows ← exec (.shelf account)
  return (rows : List (Item × Transaction)).map ShelfEntry.of

structure Download where
  item : Int
  title : String
  fileRef : String
deriving DecidableEq, Repr

def Download.fields (d : Download) : List (String × Json) :=
  [("item_id", .int d.item), ("title", .text d.title), ("file_ref", .text d.fileRef)]

/-- The file of an item of the catalog, if the item has one. -/
def fileOf (item : Option Item) : Option Download :=
  match item with
  | none => none
  | some i =>
    match i.fileRef with
    | none => none
    | some ref => if ref.isEmpty then none else some ⟨i.id, i.title, ref⟩

/-- The file of an item, for an owner only. -/
def download (account item : Int) : Script Download := do
  if ← owns account item then
    let row ← exec (.item item)
    match fileOf row with
    | some d => return d
    | none => refuse (.notFound "Item file" (toString item))
  else refuse (.notEntitled item)

end Scrip.Registry
