import Scrip.Work.Session
set_option autoImplicit false

/-! # Named faults

Conditions of a run by name. A fault makes one kind of statement fail; those of commit and
rollback strike the first one only. A rival is another worker that commits a change right
after the first read of an ownership, or after the first read of a transaction: it sets the
balance of the account, takes the item for the account, or sets the state of the transaction.
A rival is bound by the constraints of the database like everyone else.
-/

namespace Scrip

/-- The places where a fault can strike. -/
inductive FaultSite where
  | deduct
  | record
  | recordAll
  | grant
  | balance
  | add
  | commit
  | rollback
  | subjects
  | levels
  | counts
  | ownedIds
  | catalog
  | noManager
  | deadDatabase
deriving DecidableEq, Repr

/-- Whether a fault strikes a statement, given the statements before. -/
def FaultSite.strikes (site : FaultSite) (before : List Statement) (s : Statement) : Bool :=
  match site, s with
  | deduct, .debit _ _ => true
  | record, .append d => d.kind == Kind.purchase.text && d.status == Status.completed.text
  | recordAll, .append d => d.kind == Kind.purchase.text
  | grant, .grant _ _ _ => true
  | balance, .balance _ => true
  | add, .credit _ _ => true
  | commit, .commit => !before.contains .commit
  | rollback, .rollback => !before.contains .rollback
  | subjects, .ownedSubjects _ => true
  | levels, .ownedLevels _ => true
  | counts, .tallies => true
  | ownedIds, .ownedIds _ => true
  | catalog, .published => true
  | noManager, .connect => true
  | deadDatabase, .ping => true
  | _, _ => false

/-- A fault: where it strikes, and the failure of the statement. -/
structure Fault where
  site : FaultSite
  failure : Failure

/-- What a rival does. -/
inductive Rival where
  | setBalance (balance : Int)
  | takeItem (transaction : Int)
  | setStatus (status : String) (locked : Bool)
deriving DecidableEq, Repr

namespace Rival

def readsOwnership : Statement → Bool
  | .owns _ _ => true
  | _ => false

def readsTransaction (locked : Bool) : Statement → Bool
  | .find _ lock => lock == locked
  | _ => false

/-- The violation of the rule that balances are not negative. -/
def negativeBalance : Failure := .storage .integrity "CHECK constraint failed"

/-- The store after the balance of an account was set. -/
def withBalance (store : Store) (account balance : Int) : Except Failure Store :=
  match store.balance? account with
  | none => .ok store
  | some old =>
    if balance < 0 then .error negativeBalance
    else .ok (store.apply (.balance account (balance - old)))

/-- The store after a rival has moved right after a statement, given the statements before. -/
def move (rival : Rival) (before : List Statement) (s : Statement) (store : Store) :
    Except Failure Store :=
  match rival, s with
  | setBalance balance, .owns account _ =>
    if before.any readsOwnership then .ok store else withBalance store account balance
  | takeItem transaction, .owns account item =>
    if before.any readsOwnership then .ok store
    else
      match Statement.answerGrant store account item transaction with
      | .error e => .error e
      | .ok (_, writes) => .ok (store.applyAll writes)
  | setStatus status locked, .find id lock =>
    if lock != locked || before.any (readsTransaction locked) then .ok store
    else .ok (store.apply (.status id status none))
  | _, _ => .ok store

end Rival

/-- The conditions that some faults and rivals make. The first fault that strikes a statement
counts; rivals move in turn. -/
def Conditions.ofFaults (faults : List Fault) (rivals : List Rival) : Conditions where
  fault before s := (faults.find? fun f => f.site.strikes before s).map (·.failure)
  rival before s store := rivals.foldlM (fun store r => r.move before s store) store

end Scrip
