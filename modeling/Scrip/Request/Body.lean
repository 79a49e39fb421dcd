import Scrip.Request.Field
import Scrip.Text.Basic
set_option autoImplicit false

/-! # Bodies of requests

The two bodies that requests carry: a top-up request, with an amount of money, a method of
payment and an optional reference, and the settlement of a top-up. Fields are checked in the
order of their declaration, one complaint each; other fields do not count.
-/

namespace Scrip

structure TopUpRequest where
  amount : Decimal
  method : String
  reference : Option String
deriving DecidableEq, Repr

namespace TopUpRequest

/-- The most characters of a method of payment, before trimming. -/
def methodLimit : Nat := 50

/-- The most characters of a reference, before trimming. -/
def referenceLimit : Nat := 255

/-- A method of payment: one to `methodLimit` characters, and not blank when trimmed. -/
def methodRule (j : Json) : Except Complaint String :=
  match Field.textUpTo methodLimit j with
  | .error c => .error c
  | .ok s =>
    if s.isEmpty then .error .tooShort
    else
      let trimmed := Blank.trimText s
      if trimmed.isEmpty then .error .blankMethod else .ok trimmed

/-- A reference: null, or a text that is trimmed; a blank one counts as none. -/
def referenceRule (j : Json) : Except Complaint (Option String) :=
  match j with
  | .null => .ok none
  | j =>
    match Field.textUpTo referenceLimit j with
    | .error c => .error c
    | .ok s =>
      let trimmed := Blank.trimText s
      .ok (if trimmed.isEmpty then none else some trimmed)

def ofFields (fields : List (String × Json)) : Except (List Issue) TopUpRequest :=
  Field.both (fun f reference => f reference)
    (Field.both (fun amount method => TopUpRequest.mk amount method)
      (Field.check fields "amount" Field.amount)
      (Field.check fields "method" methodRule))
    (Field.checkOr fields "reference" none referenceRule)

end TopUpRequest

/-- The settlement of a top-up: whether the payment was verified. -/
structure Settlement where
  approved : Bool
deriving DecidableEq, Repr

namespace Settlement

def ofFields (fields : List (String × Json)) : Except (List Issue) Settlement :=
  (Field.check fields "approved" Field.truth).map Settlement.mk

end Settlement

end Scrip
