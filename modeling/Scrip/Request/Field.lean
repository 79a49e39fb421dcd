import Scrip.Decimal.Amount
import Scrip.Request.Issue
import Scrip.Text.Half
import Scrip.Text.Whole
set_option autoImplicit false

/-! # Values of fields

The rules by which a JSON value is taken as an amount of money, a text, a truth value, a whole
number or a list. Each rule gives the value or the first complaint; `Field.check` runs the
rule of a field of an object and tells the place of a complaint.
-/

namespace Scrip.Field

/-! ## Amounts of money -/

def maxDigits : Nat := 12

def maxPlaces : Nat := 2

/-- The number of trailing zeros among the digits of a coefficient. -/
def trailingZeros (n : Nat) : Nat :=
  ((Nat.toDigits 10 n).reverse.takeWhile (· == '0')).length

/-- The digits and decimals of a number once trailing zeros are removed: digits before the point
count even if they are zeros that only a power of ten supplies, and so do zeros right after the
point. No digit is rounded away before it is counted. -/
def extent (d : Decimal) : Nat × Nat :=
  if d.coefficient = 0 then (1, 0)
  else
    let z := trailingZeros d.coefficient
    let digits := Digit.count d.coefficient - z
    let e := d.exponent + z
    if 0 ≤ e then (digits + e.toNat, 0)
    else (max digits (-e).toNat, (-e).toNat)

/-- The rules for an amount of money: its extent, then its sign. -/
def money (d : Decimal) : Except Complaint Decimal :=
  let (digits, places) := extent d
  if maxDigits < digits then .error (.tooManyDigits maxDigits)
  else if maxPlaces < places then .error (.tooManyPlaces maxPlaces)
  else if maxDigits - maxPlaces < digits - places then
    .error (.tooManyWholeDigits (maxDigits - maxPlaces))
  else if d.negative || d.coefficient = 0 then .error .notPositive
  else .ok d

/-- The amount that a JSON value spells, by its text; a floating point number counts by its
shortest text. -/
def spelledAmount (j : Json) : Except Complaint Amount :=
  let read (s : String) : Except Complaint Amount :=
    match Amount.read? s with
    | some a => .ok a
    | none => .error .badDecimal
  match j with
  | .text s => read s
  | .int n => .ok (.finite (Decimal.ofInt n))
  | .real x => read x.text
  | _ => .error .notDecimal

def amount (j : Json) : Except Complaint Decimal :=
  match spelledAmount j with
  | .error c => .error c
  | .ok (.finite d) => money d
  | .ok _ => .error .notFinite

/-! ## Texts, truth values, numbers -/

/-- A text, as long as it holds no half of a surrogate pair. -/
def sound (s : String) : Except Complaint String :=
  if Half.occursIn s then .error .brokenText else .ok s

def text (j : Json) : Except Complaint String :=
  match j with
  | .text s => sound s
  | _ => .error .notText

/-- A JSON value as a text of at most `limit` characters. -/
def textUpTo (limit : Nat) (j : Json) : Except Complaint String :=
  match text j with
  | .ok s => if limit < s.length then .error (.tooLong limit) else .ok s
  | .error c => .error c

/-- The words for yes, in small letters. -/
def yesWords : List String := ["1", "true", "t", "yes", "y", "on"]

/-- The words for no, in small letters. -/
def noWords : List String := ["0", "false", "f", "no", "n", "off"]

def truthWord (s : String) : Except Complaint Bool :=
  let low := String.ofList (s.toList.map Char.toLower)
  if yesWords.contains low then .ok true
  else if noWords.contains low then .ok false
  else .error .badBoolean

def truthNumber (n : Int) : Except Complaint Bool :=
  if n = 1 then .ok true else if n = 0 then .ok false else .error .badBoolean

/-- The bound of the whole numbers that a word of 64 bits holds. -/
def wordBound : Int := Nat.pow 2 63

/-- A JSON value as a truth value: a truth value itself, a number equal to one or zero, or
a word. A number that a word of 64 bits does not hold is no truth value at all. -/
def truth (j : Json) : Except Complaint Bool :=
  match j with
  | .bool b => .ok b
  | .int n => if -wordBound ≤ n ∧ n < wordBound then truthNumber n else .error .notBoolean
  | .real x =>
    match x.whole? with
    | some n => if -wordBound < n ∧ n < wordBound then truthNumber n else .error .notBoolean
    | none => .error .notBoolean
  | .text s => (sound s).bind truthWord
  | _ => .error .notBoolean

def wholeText (s : String) : Except Complaint Int :=
  match Whole.read s with
  | .ok n => .ok n
  | .error .malformed => .error .badInteger
  | .error .tooLong => .error .hugeInteger

/-- A JSON value as a whole number. A floating point number must be one that a word of 64 bits
holds. -/
def whole (j : Json) : Except Complaint Int :=
  match j with
  | .int n => .ok n
  | .bool b => .ok (if b then 1 else 0)
  | .real x =>
    match x with
    | .finite _ _ _ =>
      match x.whole? with
      | some n => if -wordBound < n ∧ n < wordBound then .ok n else .error .hugeInteger
      | none => .error .fractional
    | _ => .error .notFinite
  | .text s => (sound s).bind wholeText
  | _ => .error .notInteger

/-! ## Fields -/

/-- The result of a rule at a place. -/
def placed {α : Type} (key : String) (r : Except Complaint α) : Except (List Issue) α :=
  match r with
  | .ok a => .ok a
  | .error c => .error [⟨[.key key], c⟩]

/-- The value of a field that must be there. -/
def check {α : Type} (fields : List (String × Json)) (key : String)
    (rule : Json → Except Complaint α) : Except (List Issue) α :=
  match Json.lookup fields key with
  | none => placed key (.error .missing)
  | some j => placed key (rule j)

/-- The value of a field that has a default. -/
def checkOr {α : Type} (fields : List (String × Json)) (key : String) (default : α)
    (rule : Json → Except Complaint α) : Except (List Issue) α :=
  match Json.lookup fields key with
  | none => .ok default
  | some j => placed key (rule j)

/-- A rule that also takes null. -/
def orNull {α : Type} (rule : Json → Except Complaint α) (j : Json) :
    Except Complaint (Option α) :=
  match j with
  | .null => .ok none
  | j => (rule j).map some

/-- Two results together, with the issues of both. -/
def both {α β γ : Type} (f : α → β → γ) (x : Except (List Issue) α)
    (y : Except (List Issue) β) : Except (List Issue) γ :=
  match x, y with
  | .ok a, .ok b => .ok (f a b)
  | .ok _, .error q => .error q
  | .error p, .ok _ => .error p
  | .error p, .error q => .error (p ++ q)

end Scrip.Field
