import Scrip.Work.Statement
set_option autoImplicit false

/-! # Scripts

An operation of the ledger is a script: it asks one statement after another and goes on with
each answer, which may be a failure, until it is done with a result or a failure of its own.
What a script means depends on who executes its statements: a session alone, a session under
faults, or several sessions in turn.
-/

namespace Scrip

/-- An operation as a sequence of statements. -/
inductive Script (α : Type) : Type where
  | done (result : Except Failure α)
  | ask (statement : Statement) (next : Except Failure statement.Reply → Script α)

namespace Script

variable {α β : Type}

/-- Goes on with the result of a script; a failure ends both. -/
def bind : Script α → (α → Script β) → Script β
  | done (.ok a), f => f a
  | done (.error e), _ => done (.error e)
  | ask s next, f => ask s fun r => (next r).bind f

instance : Monad Script where
  pure a := done (.ok a)
  bind := bind

def exec (s : Statement) : Script s.Reply := ask s done

def fail (e : Failure) : Script α := done (.error e)

def refuse (r : Refusal) : Script α := fail (.refused r)

/-- The script as one that does not fail: its result is what the script ends in. -/
def attempt : Script α → Script (Except Failure α)
  | done r => done (.ok r)
  | ask s next => ask s fun r => (next r).attempt

/-- A result that may be a failure. -/
def ofExcept (r : Except Failure α) : Script α := done r

/-- A decision that may be a refusal. -/
def require (r : Except Refusal α) : Script α := done (r.mapError .refused)

/-! ## Units of work

A unit of work obtains a session, does its work, and ends the session, which discards what
was not committed. A refusal or a storage fault that leaves the work rolls it back first, and
the fault becomes the refusal that callers see; other failures pass through. When the rollback
itself fails, its failure takes the place of the first. -/

/-- Ends the session and then ends in a failure. -/
def closeWith (e : Failure) : Script α := do
  exec .close
  fail e

/-- Rolls back, ends the session, and then ends in a failure. -/
def abandon (e : Failure) : Script α := do
  match ← (exec .rollback).attempt with
  | .ok _ => closeWith e
  | .error e' => closeWith e'

/-- The end of a unit of work whose work has ended in `r`. -/
def conclude (r : Except Failure α) : Script α :=
  match r with
  | .ok a => do
    exec .close
    return a
  | .error (.refused r) => abandon (.refused r)
  | .error (.storage f _) => abandon (.refused f.refusal)
  | .error (.crash k m) => closeWith (.crash k m)

/-- A script as a unit of work of its own. -/
def unitOfWork (work : Script α) : Script α := do
  exec .connect
  let r ← work.attempt
  conclude r

/-- A script as a unit of work that is committed at its end. -/
def committing (work : Script α) : Script α := unitOfWork do
  let a ← work
  exec .commit
  return a

end Script

end Scrip
