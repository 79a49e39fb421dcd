import Scrip.Bearer
import Scrip.Work.Script
set_option autoImplicit false

/-! # Identity

A credential names the account of the login that has exactly this credential and was used
within the time to live of logins. There is no other way to be known.
-/

namespace Scrip.Identity

open Script

/-- The caller of an operation: an account and the credential that named it. -/
structure Caller where
  account : Int
  credential : String
deriving DecidableEq, Repr

/-- The refusal of an unknown or expired credential. -/
def unknown : Refusal := .unauthenticated "Invalid or expired session"

/-- The moment after which a login must have been used; it must be in the calendar. -/
def cutoff (now : Moment) (ttlSeconds : Int) : Except Failure Moment :=
  let t : Moment := now - ttlSeconds * Moment.second
  if Moment.isRepresentable t then .ok t else .error .dateOutOfRange

def resolve (ttlSeconds : Int) (now : Moment) (credential : String) : Script Caller := do
  let after ← ofExcept (cutoff now ttlSeconds)
  let account ← exec (.login credential after)
  match (account : Option Int) with
  | some a => return ⟨a, credential⟩
  | none => refuse unknown

def authenticate (ttlSeconds : Int) (now : Moment) (header : Option String) :
    Script Caller := do
  let credential ← require (Bearer.extract header)
  resolve ttlSeconds now credential

end Scrip.Identity
