import Scrip.Error.Failure
import Scrip.Text.Basic
set_option autoImplicit false

/-! # Bearer credentials

The `Authorization` header of a request holds the word `Bearer` in any letter case, blanks, and
a credential without blanks; blanks around all of it do not count. `Bearer.extract` gives the
credential or the refusal.
-/

namespace Scrip.Bearer

/-- The refusal of a request without a header, or with an empty one. -/
def missing : Refusal := .unauthenticated "Missing bearer token"

/-- The refusal of a header of any other form. -/
def malformed : Refusal := .unauthenticated "Malformed Authorization header"

/-- The word before the credential, in small letters. -/
def word : List Char := ['b', 'e', 'a', 'r', 'e', 'r']

/-- The credential in a header: after the word come at least one blank and then no other. -/
def credential? (header : List Char) : Option (List Char) :=
  let cs := Blank.trim header
  let rest := cs.drop word.length
  let token := rest.dropWhile Blank.isBlank
  if (cs.take word.length).map Char.toLower = word && token.length < rest.length &&
      !token.isEmpty && token.all (!Blank.isBlank ·) then
    some token
  else
    none

def extract (header : Option String) : Except Refusal String :=
  match header with
  | none => .error missing
  | some h =>
    if h.isEmpty then .error missing
    else
      match credential? h.toList with
      | some token => .ok (String.ofList token)
      | none => .error malformed

end Scrip.Bearer
