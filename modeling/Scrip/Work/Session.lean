import Scrip.Work.Script
set_option autoImplicit false

/-! # Sessions

A session executes statements on a store: reads see the committed rows and the session's own
writes, a commit makes the writes permanent, and a rollback, giving up the connection or ending
the session discards them. Statements may fail: the conditions of a run say which, depending on
all that was executed before. A statement that fails has no effect, except that a session that
ends has ended. The conditions also say what another worker commits right after a statement; if
that fails, so does the statement, though it has had its effect.
-/

namespace Scrip

/-- The conditions of a run: the failure of a statement, if it fails, and the store as another
worker leaves it right after the statement. Both may depend on the statements before, latest
first. -/
structure Conditions where
  fault : List Statement → Statement → Option Failure := fun _ _ => none
  rival : List Statement → Statement → Store → Except Failure Store := fun _ _ s => .ok s

/-- Conditions without faults and without other workers. -/
def Conditions.calm : Conditions := {}

/-- The failures of statements: early ones, before a statement has an effect, and late ones,
after it has had its effect. Both may depend on the statements before, latest first. -/
structure Faults where
  early : List Statement → Statement → Option Failure := fun _ _ => none
  late : List Statement → Statement → Option Failure := fun _ _ => none

/-- Conditions with some faults and without other workers. A commit that fails has committed
nothing, so late faults do not strike it. -/
def Conditions.failing (f : Faults) : Conditions where
  fault := f.early
  rival before s store :=
    if s = .commit then .ok store
    else
      match f.late before s with
      | some e => .error e
      | none => .ok store

/-- A session: the committed store, the writes since the last commit, and the statements so
far, latest first. -/
structure Session where
  committed : Store
  pending : List Write := []
  trace : List Statement := []

namespace Session

def start (s : Store) : Session := ⟨s, [], []⟩

def view (st : Session) : Store := st.committed.applyAll st.pending

def discard (st : Session) : Session := { st with pending := [] }

/-- The session after a statement that succeeded with some writes. -/
def succeed (st : Session) (s : Statement) (writes : List Write) : Session :=
  match s with
  | .commit => { st with committed := st.view, pending := [] }
  | .rollback => st.discard
  | .invalidate => st.discard
  | .close => st.discard
  | _ => { st with pending := st.pending ++ writes }

/-- The session after a statement that failed. -/
def suffer (st : Session) (s : Statement) : Session :=
  match s with
  | .close => st.discard
  | _ => st

def execute (c : Conditions) (st : Session) (s : Statement) :
    Except Failure s.Reply × Session :=
  let seen := { st with trace := s :: st.trace }
  match c.fault st.trace s with
  | some e => (.error e, seen.suffer s)
  | none =>
    match s.answer seen.view with
    | .error e => (.error e, seen.suffer s)
    | .ok (reply, writes) =>
      let after := seen.succeed s writes
      match c.rival st.trace s after.committed with
      | .error e => (.error e, after)
      | .ok store => (.ok reply, { after with committed := store })

end Session

def Script.run {α : Type} (c : Conditions) :
    Script α → Session → Except Failure α × Session
  | .done r, st => (r, st)
  | .ask s next, st =>
    let (reply, st') := st.execute c s
    (next reply).run c st'

end Scrip
