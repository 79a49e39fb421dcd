import Scrip.Work.Session
set_option autoImplicit false

/-! # What a database may do

A session alone (`Session.execute`) is one way to answer statements. This is all that is relied
on when other sessions work on the same store: a read sees the committed rows and the session's
own writes; a conditional change is decided on these, and the row that it changes stays closed to
others until the session commits or gives up; a new row gets an id that is not in sight; and an
ownership that is in sight is not granted again. Ids are otherwise free, for two sessions that
number their rows at the same time know nothing of each other.
-/

namespace Scrip

/-- A row that is changed in its place. -/
inductive RowKey where
  | account (id : Int)
  | transaction (id : Int)
deriving DecidableEq, Repr

/-- The row that a write changes, if it does not make a new one. -/
def Write.row? : Write → Option RowKey
  | .balance account _ => some (.account account)
  | .status id _ _ => some (.transaction id)
  | .append _ => none
  | .own _ => none

/-- The rows that some writes change. They are closed to other sessions. -/
def closedRows (ws : List Write) : List RowKey := ws.filterMap Write.row?

namespace Statement

/-- Whether a statement ends a unit of work, so that nothing is left that was not committed. -/
def endsWork : Statement → Bool
  | commit => true
  | rollback => true
  | invalidate => true
  | close => true
  | _ => false

/-- Whether a statement neither writes nor ends a unit of work. -/
def isReading : Statement → Bool
  | credit _ _ => false
  | debit _ _ => false
  | grant _ _ _ => false
  | append _ => false
  | settle _ _ _ _ => false
  | q => !q.endsWork

/-- A reply to a statement that succeeds in a view of the store, and the writes it makes. -/
def Yields (view : Store) : (q : Statement) → q.Reply → List Write → Prop
  | append draft, row, ws =>
    ∃ id, id ∉ view.transactions.map (·.id) ∧ row = draft.row id ∧ ws = [.append row]
  | grant account id transaction, row, ws =>
    view.owns account id = false ∧ view.ownerships.any (·.transaction == transaction) = false ∧
      ∃ own, row = ⟨own, account, id, transaction⟩ ∧ ws = [.own row]
  | q, reply, ws => q.answer view = .ok (reply, ws)

/-- A statement succeeds in a session that has some writes pending on a store: the reply, and
the writes that are pending then. -/
def Works (store : Store) (pending : List Write) (q : Statement) (reply : q.Reply)
    (after : List Write) : Prop :=
  ∃ ws, q.Yields (store.applyAll pending) reply ws ∧
    after = if q.endsWork then [] else pending ++ ws

/-- What a database may do with a statement of a session that has some writes pending on a
store: the reply, and the writes that are pending then. A statement may fail at any time if
`may` says so, or because of what it asks. Then it has no effect, except that a session that
ends has ended; or it fails only after it has had its effect, but not if it is a commit. -/
def Does (may : Statement → Failure → Prop) (store : Store) (pending : List Write)
    (q : Statement) : Except Failure q.Reply → List Write → Prop
  | .error e, after =>
    ((may q e ∨ q.answer (store.applyAll pending) = .error e) ∧
      after = if q = close then [] else pending) ∨
    (may q e ∧ q ≠ commit ∧ ∃ reply, q.Works store pending reply after)
  | .ok reply, after => q.Works store pending reply after

/-- The reply of a database in which nothing fails, and the writes that are pending then. -/
def respond (store : Store) (pending : List Write) (q : Statement) :
    Except Failure q.Reply × List Write :=
  match q.answer (store.applyAll pending) with
  | .error e => (.error e, if q = close then [] else pending)
  | .ok (reply, ws) => (.ok reply, if q.endsWork then [] else pending ++ ws)

/-- Whether a reply means that the pending writes were committed. -/
def committed (q : Statement) (reply : Except Failure q.Reply) : Bool :=
  match reply with
  | .ok _ => q == commit
  | .error _ => false

end Statement

end Scrip
