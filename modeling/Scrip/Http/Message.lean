import Scrip.Error.Failure
import Scrip.Http.Target
import Scrip.Json.Reader
import Scrip.Request.Issue
import Scrip.Text.Half
set_option autoImplicit false

/-! # Requests and responses

A request has a method, a target, headers and possibly a body; a response has a status and,
unless it only points elsewhere, a JSON body. A handler that ends in a refusal is answered by the
status and the envelope of the refusal, and any other failure by an envelope that tells nothing
about it.
-/

namespace Scrip.Http

structure Request where
  method : String
  target : Target
  headers : List (String × String) := []
  body : Option String := none
deriving DecidableEq, Repr

structure Response where
  status : Nat
  body : Option Json

/-- The body of a request as data. An unreadable one is no text, or goes beyond what the
server is ready to read. -/
inductive Body where
  | absent
  | malformed (position : Nat)
  | unreadable
  | value (j : Json)

/-- The nesting and the digits of a whole number up to which the server reads a body. -/
def bodyLimits : Json.Limits := ⟨some 930, some 4300⟩

namespace Request

def small (s : String) : String := String.ofList (s.toList.map Char.toLower)

/-- The value of a header by its name in small letters; of several the first counts. -/
def header? (r : Request) (name : String) : Option String :=
  (r.headers.find? fun h => small h.1 == name).map fun h => readHeader h.2

/-- The body of a request; an empty one is absent. -/
def data (r : Request) : Body :=
  match r.body with
  | none => .absent
  | some s =>
    if s.isEmpty then .absent
    else
      match Encoding.textOf? s.toUTF8 with
      | none => .unreadable
      | some text =>
        match Json.readWithin bodyLimits text with
        | .ok j => .value j
        | .error (.malformed position) => .malformed position
        | .error .beyondLimits => .unreadable

end Request

namespace Response

def json (status : Nat) (body : Json) : Response := ⟨status, some body⟩

def bodiless (r : Response) : Response := { r with body := none }

/-- A successful answer: the given fields after the sign of success. -/
def success (fields : List (String × Json)) (status : Nat := 200) : Response :=
  .json status (.object (("success", .bool true) :: fields))

def invalid (issues : List Issue) : Response := .json 400 (Issue.envelope issues)

/-- The answer to a request that failed in a way that callers learn nothing about. -/
def internal : Response :=
  .json 500 (.object [("success", .bool false),
    ("error", .object [
      ("code", .text "INTERNAL_ERROR"),
      ("message", .text "An unexpected error occurred"),
      ("category", .text "internal"),
      ("severity", .text Severity.critical.text)])])

def refused (now : Moment) (r : Refusal) : Response :=
  .json r.status (r.envelope (.at (.utc now)))

/-- The answer to a request that ended in a failure. -/
def ofFailure (now : Moment) : Failure → Response
  | .refused r => refused now r
  | .storage _ _ => internal
  | .crash _ _ => internal

def unreadable : Response :=
  .json 400 (.object [("detail", .text "There was an error parsing the body")])

/-- The answer for a path that leads somewhere with a slash more or less at its end. -/
def redirect : Response := ⟨307, none⟩

/-- The answer for a path that leads nowhere. -/
def notFound : Response := .json 404 (.object [("detail", .text "Not Found")])

/-- The answer for a path that does not have the method. -/
def notAllowed : Response := .json 405 (.object [("detail", .text "Method Not Allowed")])

end Response

end Scrip.Http
