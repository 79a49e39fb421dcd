import Scrip.Error.Refusal
import Scrip.Json.Writer
set_option autoImplicit false

/-! # Failures

Everything that can end an operation early: a refusal of the ledger, a fault of the storage,
or a crash, which is any other unexpected error. A storage fault that leaves a unit of work
becomes a refusal with a fixed message for its kind, so that its text stays inside. A
cancellation is a crash that is no error: whoever handles errors lets it pass.
-/

namespace Scrip

/-- The kinds of storage fault, from special to general. -/
inductive StorageFault where
  | integrity
  | operational
  | data
  | driver
  | other
deriving DecidableEq, Repr

namespace StorageFault

def name : StorageFault → String
  | integrity => "IntegrityError"
  | operational => "OperationalError"
  | data => "DataError"
  | driver => "DBAPIError"
  | other => "SQLAlchemyError"

/-- The refusal that callers see in place of a fault. -/
def refusal : StorageFault → Refusal
  | integrity => .database "Integrity constraint violated" "commit"
  | operational => .database "Connection or operational error" "execute"
  | data => .database "Database driver error" "query"
  | driver => .database "Database driver error" "query"
  | other => .database "Database operation failed" "unknown"

/-- The first line of the text of a fault with the given message. -/
def describe (f : StorageFault) (message : String) : String :=
  match f with
  | other => message
  | _ => "(builtins.Exception) " ++ message

end StorageFault

inductive CrashKind where
  | runtime
  | value
  | key
  | type
  | lacking
  | arithmetic
  | magnitude
  | overflow
  | memory
  | system
  | cancelled
  | other (name : String)
deriving DecidableEq, Repr

namespace CrashKind

def name : CrashKind → String
  | runtime => "RuntimeError"
  | value => "ValueError"
  | key => "KeyError"
  | type => "TypeError"
  | lacking => "AttributeError"
  | arithmetic => "InvalidOperation"
  | magnitude => "Overflow"
  | overflow => "OverflowError"
  | memory => "MemoryError"
  | system => "OSError"
  | cancelled => "CancelledError"
  | other name => name

/-- The text of a crash with the given message: a missing key is quoted. -/
def describe (k : CrashKind) (message : String) : String :=
  match k with
  | key => Quoted.quote message
  | _ => message

end CrashKind

/-- What can end an operation early. -/
inductive Failure where
  | refused (r : Refusal)
  | storage (fault : StorageFault) (message : String)
  | crash (kind : CrashKind) (message : String)
deriving DecidableEq, Repr

namespace Failure

/-- The crash on a value that names nothing of a kind. -/
def unknownWord (given : Json) (kind : String) : Failure :=
  .crash .value (given.spelled ++ " is not a valid " ++ kind)

/-- What a value names as a word for something of a kind. -/
def readWord {α : Type} (kind : String) (ofText? : String → Option α) (given : Json) :
    Except Failure α :=
  match given with
  | .text s =>
    match ofText? s with
    | some a => .ok a
    | none => .error (unknownWord given kind)
  | _ => .error (unknownWord given kind)

/-- The crash of decimal arithmetic on a number that is too great. -/
def hugeDecimal : Failure := .crash .magnitude ""

/-- The crash of decimal arithmetic that has no result. -/
def undefinedDecimal : Failure := .crash .arithmetic ""

/-- The crash on an operand of the wrong type. -/
def wrongType : Failure := .crash .type ""

/-- The crash on a value that lacks what is asked of it. -/
def noAttribute : Failure := .crash .lacking ""

/-- The crash on a number that does not fit where it is needed. -/
def overflow : Failure := .crash .overflow ""

/-- The crash on a text that does not fit into memory. -/
def outOfMemory : Failure := .crash .memory ""

/-- The crash on a date outside the calendar. -/
def dateOutOfRange : Failure := .crash .overflow "date value out of range"

def name : Failure → String
  | refused r => r.name
  | storage f _ => f.name
  | crash k _ => k.name

/-- The text of a failure, as it stands in a failure note. -/
def describe : Failure → String
  | refused r => r.message
  | storage f m => f.describe m
  | crash k m => k.describe m

def isIntegrity : Failure → Bool
  | storage .integrity _ => true
  | _ => false

def isStorage : Failure → Bool
  | storage _ _ => true
  | _ => false

def isCancellation : Failure → Bool
  | crash .cancelled _ => true
  | _ => false

/-! ## Steps that may fail -/

/-- Two steps that may fail succeed if both do. -/
theorem bind_eq_ok {α β : Type} {x : Except Failure α} {f : α → Except Failure β} {b : β} :
    (x >>= f) = .ok b ↔ ∃ a, x = .ok a ∧ f a = .ok b := by
  cases x with
  | error e => exact ⟨fun h => (by cases h), fun ⟨a, ha, _⟩ => (by cases ha)⟩
  | ok a => exact ⟨fun h => ⟨a, rfl, h⟩, fun ⟨a', ha, h⟩ => (by cases ha; exact h)⟩

theorem mapError_eq_ok {ε ε' α : Type} {f : ε → ε'} {x : Except ε α} {a : α} :
    x.mapError f = .ok a ↔ x = .ok a := by
  cases x with
  | ok b => exact ⟨fun h => congrArg _ (Except.ok.inj h), fun h => congrArg _ (Except.ok.inj h)⟩
  | error e => exact ⟨fun h => (by cases h), fun h => (by cases h)⟩

theorem readWord_eq_ok {α : Type} {kind : String} {ofText? : String → Option α}
    {word : String} {a : α} :
    readWord kind ofText? (.text word) = .ok a ↔ ofText? word = some a := by
  cases h : ofText? word <;> simp [readWord, h]

end Failure

end Scrip
