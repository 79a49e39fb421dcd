import Scrip.Json.Basic
set_option autoImplicit false

/-! # Issues with the data of a request

What is wrong with one value that a request or the settings carry: the place of the value, as
a path of names and indices, and the reason. A request with issues is answered with all of them.
-/

namespace Scrip

/-- A step of the path to a value. -/
inductive Step where
  | key (name : String)
  | index (n : Int)
deriving DecidableEq, Repr

def Step.text : Step → String
  | key name => name
  | index n => toString n

/-- Why a value is not accepted. -/
inductive Complaint where
  | missing
  | notDecimal
  | badDecimal
  | notFinite
  | tooManyDigits (limit : Nat)
  | tooManyPlaces (limit : Nat)
  | tooManyWholeDigits (limit : Nat)
  | notPositive
  | notText
  | brokenText
  | tooShort
  | tooLong (limit : Nat)
  | blankMethod
  | notBoolean
  | badBoolean
  | notInteger
  | badInteger
  | hugeInteger
  | fractional
  | notList
  | notObject
  | notAllowed
  | badJson
deriving DecidableEq, Repr

namespace Complaint

/-- The type of a complaint, by which clients tell complaints apart. -/
def type : Complaint → String
  | missing => "missing"
  | notDecimal => "decimal_type"
  | badDecimal => "decimal_parsing"
  | notFinite => "finite_number"
  | tooManyDigits _ => "decimal_max_digits"
  | tooManyPlaces _ => "decimal_max_places"
  | tooManyWholeDigits _ => "decimal_whole_digits"
  | notPositive => "greater_than"
  | notText => "string_type"
  | brokenText => "string_unicode"
  | tooShort => "string_too_short"
  | tooLong _ => "string_too_long"
  | blankMethod => "value_error"
  | notBoolean => "bool_type"
  | badBoolean => "bool_parsing"
  | notInteger => "int_type"
  | badInteger => "int_parsing"
  | hugeInteger => "int_parsing_size"
  | fractional => "int_from_float"
  | notList => "list_type"
  | notObject => "model_attributes_type"
  | notAllowed => "extra_forbidden"
  | badJson => "json_invalid"

def message : Complaint → String
  | missing => "Field required"
  | notDecimal => "Decimal input should be an integer, float, string or Decimal object"
  | badDecimal => "Input should be a valid decimal"
  | notFinite => "Input should be a finite number"
  | tooManyDigits n => s!"Decimal input should have no more than {n} digits in total"
  | tooManyPlaces n => s!"Decimal input should have no more than {n} decimal places"
  | tooManyWholeDigits n =>
    s!"Decimal input should have no more than {n} digits before the decimal point"
  | notPositive => "Input should be greater than 0"
  | notText => "Input should be a valid string"
  | brokenText =>
    "Input should be a valid string, unable to parse raw data as a unicode string"
  | tooShort => "String should have at least 1 character"
  | tooLong n => s!"String should have at most {n} characters"
  | blankMethod => "Value error, method cannot be empty or whitespace"
  | notBoolean => "Input should be a valid boolean"
  | badBoolean => "Input should be a valid boolean, unable to interpret input"
  | notInteger => "Input should be a valid integer"
  | badInteger => "Input should be a valid integer, unable to parse string as an integer"
  | hugeInteger => "Unable to parse input string as an integer, exceeded maximum size"
  | fractional => "Input should be a valid integer, got a number with a fractional part"
  | notList => "Input should be a valid list"
  | notObject =>
    "Input should be a valid dictionary or object to extract fields from"
  | notAllowed => "Extra inputs are not permitted"
  | badJson => "JSON decode error"

end Complaint

/-- A complaint about the value at a place. -/
structure Issue where
  place : List Step
  complaint : Complaint
deriving DecidableEq, Repr

namespace Issue

/-- The same issue one level further out. -/
def inside (s : Step) (i : Issue) : Issue := { i with place := s :: i.place }

/-- One line of the answer to a request with issues. -/
def line (place : List Step) (message type : String) : Json :=
  .object [("field", .text (".".intercalate (place.map (·.text)))),
    ("message", .text message), ("type", .text type)]

/-- The body of the answer to a request with issues, from their lines. -/
def envelopeOf (lines : List Json) : Json :=
  .object [("success", .bool false),
    ("error", .object [
      ("code", .text "VALIDATION_ERROR"),
      ("message", .text "Invalid request data"),
      ("category", .text "validation"),
      ("severity", .text "error"),
      ("details", .list lines)])]

def envelope (issues : List Issue) : Json :=
  envelopeOf (issues.map fun i => line i.place i.complaint.message i.complaint.type)

end Issue

end Scrip
