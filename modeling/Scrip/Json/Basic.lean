import Scrip.Decimal.Binary
set_option autoImplicit false

/-! # JSON values

The values that requests carry and answers are made of. Whole numbers are exact and apart from
numbers written with a point or an exponent, which are binary floating point. An object is a
list of fields in order; `Json.put` keeps its keys distinct.
-/

namespace Scrip

inductive Json where
  | null
  | bool (b : Bool)
  | int (n : Int)
  | real (x : Binary)
  | text (s : String)
  | list (xs : List Json)
  | object (fields : List (String × Json))
deriving Inhabited

namespace Json

/-- Sets a field: a key that is present keeps its place and takes the new value. -/
def put (fields : List (String × Json)) (key : String) (value : Json) :
    List (String × Json) :=
  match fields with
  | [] => [(key, value)]
  | (k, v) :: r => if k == key then (k, value) :: r else (k, v) :: put r key value

def lookup (fields : List (String × Json)) (key : String) : Option Json :=
  (fields.find? (·.1 == key)).map (·.2)

/-- The value of a field of an object. -/
def field? (j : Json) (key : String) : Option Json :=
  match j with
  | object fields => lookup fields key
  | _ => none

/-- Whether nothing is in a value: it is null, false, zero, or empty. -/
def isVoid : Json → Bool
  | null => true
  | bool b => !b
  | int n => n == 0
  | real x => x.isZero
  | text s => s.isEmpty
  | list xs => xs.isEmpty
  | object fields => fields.isEmpty

def ofOption {α : Type} (f : α → Json) : Option α → Json
  | none => null
  | some a => f a

end Json

end Scrip
