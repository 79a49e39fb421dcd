import Scrip.Error.Failure
set_option autoImplicit false

/-! # Kinds and states of transactions

A transaction is a top-up or a purchase, and it is pending, completed or failed. Rows keep
these as words; a word outside the list is a crash of whoever reads it. The only change that
the log of transactions allows is that a pending top-up becomes completed or failed.
-/

namespace Scrip

/-- What a transaction is. -/
inductive Kind where
  | topup
  | purchase
deriving DecidableEq, Repr

namespace Kind

def text : Kind → String
  | topup => "topup"
  | purchase => "purchase"

def ofText? (s : String) : Option Kind :=
  if s = "topup" then some topup else if s = "purchase" then some purchase else none

def ofJson (j : Json) : Except Failure Kind := Failure.readWord "TransactionKind" ofText? j

def read (s : String) : Except Failure Kind := ofJson (.text s)

end Kind

/-- How far a transaction has come. -/
inductive Status where
  | pending
  | completed
  | failed
deriving DecidableEq, Repr

namespace Status

def text : Status → String
  | pending => "pending"
  | completed => "completed"
  | failed => "failed"

def ofText? (s : String) : Option Status :=
  if s = "pending" then some pending
  else if s = "completed" then some completed
  else if s = "failed" then some failed
  else none

def ofJson (j : Json) : Except Failure Status := Failure.readWord "TransactionStatus" ofText? j

def read (s : String) : Except Failure Status := ofJson (.text s)

/-- Whether a transaction of a kind may move from one state to another. -/
def mayMove (kind : Kind) (current requested : Status) : Bool :=
  kind == .topup && current == .pending && requested != .pending

/-- Refuses every move but that of a pending top-up to completed or failed. -/
def requireMove (id : Int) (kind : Kind) (current requested : Status) :
    Except Refusal Unit :=
  if mayMove kind current requested then .ok ()
  else .error (.invalidTransition id current.text requested.text)

end Status

end Scrip
