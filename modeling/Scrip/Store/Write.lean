import Scrip.Store.Basic
set_option autoImplicit false

/-! # Writes

The changes that transactions of the database make to the store: a change of one balance, a new
row of the transaction log, a new ownership, and a new state of one transaction. The catalog and
the logins are changed by other systems only. The database keeps uniqueness constraints on the
two tables that the ledger itself fills.
-/

namespace Scrip

/-- A change of one row. -/
inductive Write where
  | balance (account change : Int)
  | append (row : Transaction)
  | own (row : Ownership)
  | status (transaction : Int) (status : String) (time : Option Moment)
deriving DecidableEq, Repr

namespace Store

/-- The accounts after a change of one balance. -/
def changeBalance (accounts : List Account) (account change : Int) : List Account :=
  accounts.map fun a => if a.id = account then { a with balance := a.balance + change } else a

/-- The log after a new state of one transaction; a time, if given, is noted as that of the
update. -/
def changeStatus (rows : List Transaction) (id : Int) (status : String)
    (time : Option Moment) : List Transaction :=
  rows.map fun t =>
    if t.id = id then
      { t with status := status, updatedAt := if time.isSome then time else t.updatedAt }
    else t

def apply (s : Store) : Write → Store
  | .balance account change =>
    { s with accounts := changeBalance s.accounts account change }
  | .append row => { s with transactions := s.transactions ++ [row] }
  | .own row => { s with ownerships := s.ownerships ++ [row] }
  | .status id status time =>
    { s with transactions := changeStatus s.transactions id status time }

def applyAll (s : Store) (ws : List Write) : Store := ws.foldl apply s

/-! ## Keys -/

/-- The uniqueness constraints: no two transactions have one id, no account owns an item twice,
and no transaction pays for two ownerships. -/
structure Lawful (s : Store) : Prop where
  log : (s.transactions.map (·.id)).Nodup
  pairs : (s.ownerships.map fun o => (o.account, o.item)).Nodup
  payments : (s.ownerships.map (·.transaction)).Nodup

theorem lawful_iff {s : Store} :
    s.Lawful ↔ (s.transactions.map (·.id)).Nodup ∧
      (s.ownerships.map fun o => (o.account, o.item)).Nodup ∧
      (s.ownerships.map (·.transaction)).Nodup :=
  ⟨fun h => ⟨h.log, h.pairs, h.payments⟩, fun h => ⟨h.1, h.2.1, h.2.2⟩⟩

instance (s : Store) : Decidable s.Lawful := decidable_of_iff _ lawful_iff.symm

end Store

end Scrip
