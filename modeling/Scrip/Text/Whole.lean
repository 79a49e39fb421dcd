import Scrip.Text.Basic
set_option autoImplicit false

/-! # Whole numbers in text

Settings, path segments and query values spell a whole number in the strict form, which is a
minus sign or none and then digits without superfluous zeros, or in a loose form that is brought
into the strict one: a plus sign, zeros and underscores before the first other digit, single
underscores between digits, and a point with nothing but zeros after it are taken away. White
space around the number does not count. A number of more than `maxDigits` digits in its
strict form is too long to be read.
-/

namespace Scrip.Whole

/-- Why a text is not read as a whole number. -/
inductive Fault where
  | malformed
  | tooLong
deriving DecidableEq, Repr

/-- The most digits of the strict form. -/
def maxDigits : Nat := 4300

/-- The number in strict form. Text after too many digits does not matter. -/
def strict (cs : List Char) : Except Fault Int :=
  let negative := cs.head? == some '-'
  let body := if negative then cs.drop 1 else cs
  let digits := body.takeWhile (·.isDigit)
  let n : Int := Nat.ofDigitChars 10 digits 0
  if digits.isEmpty || digits.head? == some '0' then
    if body = ['0'] then .ok 0 else .error .malformed
  else if maxDigits < digits.length then .error .tooLong
  else if digits.length < body.length then .error .malformed
  else .ok (if negative then -n else n)

def isLeading (c : Char) : Bool := c.isDigit && c != '0'

/-- What is left of a text once the zeros and underscores at its start are taken away. `last`
is the latest one of them: it stays when it is the last character or stands before a point. -/
def dropZeros (last : Char) : List Char → Option (List Char)
  | [] => some [last]
  | c :: r =>
    if c == '0' || c == '_' then dropZeros c r
    else if isLeading c || c == '-' then some (c :: r)
    else if c == '.' then some (last :: c :: r)
    else none

/-- A text without superfluous zeros at its start. -/
def withoutZeros (cs : List Char) : Option (List Char) :=
  match cs with
  | '0' :: r => dropZeros '0' r
  | c :: _ => if isLeading c || c == '-' then some cs else none
  | [] => none

/-- A text without a point that only zeros follow, of which there is at least one. -/
def withoutFraction (cs : List Char) : List Char :=
  let whole := cs.takeWhile (· != '.')
  let zeros := cs.drop (whole.length + 1)
  if !zeros.isEmpty && zeros.all (· == '0') then whole else cs

def hasDouble : List Char → Bool
  | '_' :: '_' :: _ => true
  | _ :: r => hasDouble r
  | [] => false

/-- A text without its underscores, as long as each stands alone between two characters. -/
def withoutUnderscores (cs : List Char) : List Char :=
  if cs.head? == some '_' || cs.getLast? == some '_' || hasDouble cs then cs
  else cs.filter (· != '_')

/-- The strict form of a text in loose form. -/
def tidy (cs : List Char) : Option (List Char) :=
  let unsigned := match cs with
    | '+' :: r => if r.head? == some '-' then none else some r
    | r => some r
  (unsigned.bind withoutZeros).map fun r => withoutUnderscores (withoutFraction r)

def read (s : String) : Except Fault Int :=
  let cs := Blank.trimBy Blank.isWhite s.toList
  match strict cs with
  | .error .malformed =>
    match tidy cs with
    | none => .error .malformed
    | some tidied => strict tidied
  | r => r

end Scrip.Whole
