import Scrip.Error.Failure
import Scrip.Json.Writer
import Scrip.Store.Write
set_option autoImplicit false

/-! # Statements

What an operation asks of the database, one statement at a time, and what each statement
answers. A statement sees a view of the store and may have writes, which are not yet committed.
The statements that begin and end units of work see nothing and write nothing themselves;
their effect belongs to the session that executes them.

An amount of credits may be handed over as any value; only a positive whole number is accepted.
-/

namespace Scrip

/-- An amount of credits as it is handed over: a whole number, or another value by its
spelling. -/
inductive Quantity where
  | whole (n : Int)
  | other (spelling : String)
deriving DecidableEq, Repr

namespace Quantity

def ofJson : Json → Quantity
  | .int n => whole n
  | j => other j.spelled

/-- The refusal of an amount that is not a positive whole number. -/
def refusal (spelling : String) : Refusal :=
  .invalidAmount ("Credit amount must be a positive integer, got " ++ spelling)

def positive : Quantity → Except Refusal Int
  | whole n => if 0 < n then .ok n else .error (refusal (toString n))
  | other spelling => .error (refusal spelling)

end Quantity

inductive Statement where
  /-- Obtains a session from the database. -/
  | connect
  /-- Ends a session; what it has not committed is discarded. -/
  | close
  /-- Commits the writes of the session. -/
  | commit
  /-- Discards the writes of the session. -/
  | rollback
  /-- Gives the connection up, so that the server discards the writes of the session. -/
  | invalidate
  /-- Opens a savepoint. -/
  | savepoint
  /-- Closes a savepoint and keeps what was done since. -/
  | release
  /-- Goes back to a savepoint. -/
  | rewind
  /-- A trivial query. -/
  | ping
  /-- The account of a credential that was used after a moment. -/
  | login (sid : String) (after : Moment)
  /-- An item of the catalog. -/
  | item (id : Int)
  /-- The published items. -/
  | published
  /-- A balance. -/
  | balance (account : Int)
  /-- A balance, the account being locked until the end of the unit of work. -/
  | lockBalance (account : Int)
  /-- Raises a balance; tells whether the account exists. -/
  | credit (account : Int) (amount : Quantity)
  /-- Lowers a balance that covers the amount; tells whether it did. -/
  | debit (account : Int) (amount : Quantity)
  /-- Whether an account owns an item. -/
  | owns (account item : Int)
  /-- Entitles an account to an item. -/
  | grant (account item transaction : Int)
  /-- The ids of the items that an account owns. -/
  | ownedIds (account : Int)
  /-- The subjects of the items that an account owns. -/
  | ownedSubjects (account : Int)
  /-- The levels of the items that an account owns. -/
  | ownedLevels (account : Int)
  /-- The published items that an account owns, with their purchases. -/
  | shelf (account : Int)
  /-- Appends a row to the transaction log. -/
  | append (draft : Draft)
  /-- A transaction, which may be locked until the end of the unit of work. -/
  | find (transaction : Int) (lock : Bool)
  /-- Moves a transaction that is still in one state to another; tells whether it did. -/
  | settle (transaction : Int) (current new : String) (time : Moment)
  /-- The history of an account. -/
  | history (account : Int) (limit : Option Int)
  /-- The number of completed purchases by item. -/
  | tallies
deriving DecidableEq, Repr

namespace Statement

/-- The type of the answer to a statement. -/
abbrev Reply : Statement → Type
  | connect => Unit
  | close => Unit
  | commit => Unit
  | rollback => Unit
  | invalidate => Unit
  | savepoint => Unit
  | release => Unit
  | rewind => Unit
  | ping => Unit
  | login _ _ => Option Int
  | item _ => Option Item
  | published => List Item
  | balance _ => Option Int
  | lockBalance _ => Option Int
  | credit _ _ => Bool
  | debit _ _ => Bool
  | owns _ _ => Bool
  | grant _ _ _ => Ownership
  | ownedIds _ => List Int
  | ownedSubjects _ => List String
  | ownedLevels _ => List String
  | shelf _ => List (Item × Transaction)
  | append _ => Transaction
  | find _ _ => Option Transaction
  | settle _ _ _ _ => Bool
  | history _ _ => List (Transaction × Option String)
  | tallies => List (Int × Int)

/-- The violation of a uniqueness constraint. -/
def duplicate : Failure := .storage .integrity "UNIQUE constraint failed"

/-- Raises a balance by a positive amount. -/
def answerCredit (view : Store) (account : Int) (amount : Quantity) :
    Except Failure (Bool × List Write) :=
  match amount.positive with
  | .error r => .error (.refused r)
  | .ok n =>
    match view.balance? account with
    | none => .ok (false, [])
    | some _ => .ok (true, [.balance account n])

/-- Lowers a balance by a positive amount if it covers it. -/
def answerDebit (view : Store) (account : Int) (amount : Quantity) :
    Except Failure (Bool × List Write) :=
  match amount.positive with
  | .error r => .error (.refused r)
  | .ok n =>
    match view.balance? account with
    | none => .ok (false, [])
    | some held =>
      if n ≤ held then .ok (true, [.balance account (-n)]) else .ok (false, [])

/-- Entitles an account to an item, unless it owns the item already or the transaction has
paid for another ownership. -/
def answerGrant (view : Store) (account item transaction : Int) :
    Except Failure (Ownership × List Write) :=
  if view.owns account item || view.ownerships.any (·.transaction == transaction) then
    .error duplicate
  else
    let row : Ownership :=
      ⟨Store.nextId (view.ownerships.map (·.id)), account, item, transaction⟩
    .ok (row, [.own row])

/-- Appends a row under the next id. -/
def answerAppend (view : Store) (draft : Draft) : Transaction × List Write :=
  let row := draft.row (Store.nextId (view.transactions.map (·.id)))
  (row, [.append row])

/-- Moves a transaction that is still in the state `current`. -/
def answerSettle (view : Store) (id : Int) (current new : String) (time : Moment) :
    Bool × List Write :=
  match view.transaction? id with
  | none => (false, [])
  | some t =>
    if t.status = current then (true, [.status id new (some time)]) else (false, [])

/-- The answer to a statement in a view of the store, with the writes that it makes. -/
def answer (view : Store) : (s : Statement) → Except Failure (s.Reply × List Write)
  | connect => .ok ((), [])
  | close => .ok ((), [])
  | commit => .ok ((), [])
  | rollback => .ok ((), [])
  | invalidate => .ok ((), [])
  | savepoint => .ok ((), [])
  | release => .ok ((), [])
  | rewind => .ok ((), [])
  | ping => .ok ((), [])
  | login sid after => .ok (view.login? sid after, [])
  | item id => .ok (view.item? id, [])
  | published => .ok (view.published, [])
  | balance account => .ok (view.balance? account, [])
  | lockBalance account => .ok (view.balance? account, [])
  | credit account amount => answerCredit view account amount
  | debit account amount => answerDebit view account amount
  | owns account id => .ok (view.owns account id, [])
  | grant account id transaction => answerGrant view account id transaction
  | ownedIds account => .ok (view.ownedIds account, [])
  | ownedSubjects account => .ok (view.ownedSubjects account, [])
  | ownedLevels account => .ok (view.ownedLevels account, [])
  | shelf account => .ok (view.shelf account, [])
  | append draft => .ok (answerAppend view draft)
  | find id _ => .ok (view.transaction? id, [])
  | settle id current new time => .ok (answerSettle view id current new time)
  | history account limit => .ok (view.history account limit, [])
  | tallies => .ok (view.tallies, [])

end Statement

end Scrip
