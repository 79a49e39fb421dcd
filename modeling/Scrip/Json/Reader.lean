import Scrip.Json.Basic
import Scrip.Text.Half
set_option autoImplicit false

/-! # Reading JSON

`Json.read` gives the value of a text, or the position, counted in characters from zero, at
which the text stops being JSON. Inside the reader such a fault is the rest of the text at the
place: where a value, a property name, a separator or an escape was expected, the opening quote
of a text that does not end, or what follows a complete value. A reader may also have limits on
the depth of nesting and on the digits of a whole number; `Json.readWithin` then gives up at the
first place that goes beyond them.

A key that occurs twice keeps its first place and its last value. The three names for values
that are no number (`NaN`, `Infinity`, `-Infinity`) are read.
-/

namespace Scrip.Json

/-- What a reader refuses to read: lists and objects that are nested too deep, and whole numbers
of too many digits. Nothing is refused where no limit is given. -/
structure Limits where
  depth : Option Nat := none
  digits : Option Nat := none
deriving DecidableEq, Repr

/-- Why a reader stops: the text at the fault, or a limit. -/
inductive Stop where
  | at (rest : List Char)
  | beyond
deriving DecidableEq, Repr

/-- What a reader gives: a value and the text after it, or why it stops. -/
abbrev Parsed (α : Type) : Type := Except Stop (α × List Char)

def isSpace (c : Char) : Bool := c == ' ' || c == '\t' || c == '\n' || c == '\r'

def skip (cs : List Char) : List Char := cs.dropWhile isSpace

/-! ## Texts -/

def hexDigit? (c : Char) : Option Nat :=
  if '0' ≤ c ∧ c ≤ '9' then some (c.toNat - '0'.toNat)
  else if 'a' ≤ c ∧ c ≤ 'f' then some (c.toNat - 'a'.toNat + 10)
  else if 'A' ≤ c ∧ c ≤ 'F' then some (c.toNat - 'A'.toNat + 10)
  else none

def codeUnit? (a b c d : Char) : Option Nat := do
  let a ← hexDigit? a
  let b ← hexDigit? b
  let c ← hexDigit? c
  let d ← hexDigit? d
  return ((a * 16 + b) * 16 + c) * 16 + d

def shortEscape? (c : Char) : Option Char :=
  match c with
  | '"' => some '"'
  | '\\' => some '\\'
  | '/' => some '/'
  | 'b' => some '\x08'
  | 'f' => some '\x0c'
  | 'n' => some '\n'
  | 'r' => some '\r'
  | 't' => some '\t'
  | _ => none

/-- The characters up to the closing quote. `opening` is the text at the opening quote. -/
def readChars (opening : List Char) : List Char → Parsed (List Char)
  | [] => .error (.at opening)
  | '"' :: r => .ok ([], r)
  | '\\' :: 'u' :: a :: b :: c :: d :: r =>
    match codeUnit? a b c d, r with
    | none, _ => .error (.at ('u' :: a :: b :: c :: d :: r))
    | some _, [] => .error (.at ['u', a, b, c, d])
    | some u, '\\' :: 'u' :: e :: f :: g :: h :: x :: r' =>
      if Half.isHigh u then
        match codeUnit? e f g h with
        | none => .error (.at ('u' :: e :: f :: g :: h :: x :: r'))
        | some w =>
          if Half.isLow w then
            (readChars opening (x :: r')).map fun p => (Half.ofPair u w :: p.1, p.2)
          else
            (readChars opening ('\\' :: 'u' :: e :: f :: g :: h :: x :: r')).map
              fun p => (Half.ofUnit u :: p.1, p.2)
      else
        (readChars opening ('\\' :: 'u' :: e :: f :: g :: h :: x :: r')).map
          fun p => (Half.ofUnit u :: p.1, p.2)
    | some u, x :: r' =>
      (readChars opening (x :: r')).map fun p => (Half.ofUnit u :: p.1, p.2)
  | '\\' :: 'u' :: r => .error (.at ('u' :: r))
  | ['\\'] => .error (.at opening)
  | '\\' :: c :: r =>
    match shortEscape? c with
    | some e => (readChars opening r).map fun p => (e :: p.1, p.2)
    | none => .error (.at ('\\' :: c :: r))
  | c :: r =>
    if c.toNat < 0x20 then .error (.at (c :: r))
    else (readChars opening r).map fun p => (c :: p.1, p.2)
termination_by cs => cs.length

/-- A text after its opening quote. -/
def readText (r : List Char) : Parsed String :=
  (readChars ('"' :: r) r).map fun p => (String.ofList p.1, p.2)

/-! ## Numbers -/

/-- The fraction after a whole number: a point followed by at least one digit. -/
def fraction (cs : List Char) : List Char × List Char :=
  match cs with
  | '.' :: r =>
    let ds := r.takeWhile (·.isDigit)
    if ds.isEmpty then ([], cs) else (ds, r.drop ds.length)
  | _ => ([], cs)

/-- The power of ten after a number, with whether there is one. -/
def power (cs : List Char) : Option Int × List Char :=
  match cs with
  | c :: r =>
    if c == 'e' || c == 'E' then
      let (negative, r') := match r with
        | '-' :: r' => (true, r')
        | '+' :: r' => (false, r')
        | r' => (false, r')
      let ds := r'.takeWhile (·.isDigit)
      if ds.isEmpty then (none, cs)
      else
        let n : Int := Nat.ofDigitChars 10 ds 0
        (some (if negative then -n else n), r'.drop ds.length)
    else (none, cs)
  | [] => (none, cs)

/-- The digits before a point: a zero stands alone. -/
def wholePart (cs : List Char) : List Char :=
  match cs with
  | '0' :: _ => ['0']
  | _ => cs.takeWhile (·.isDigit)

/-- A number without its sign, as long as a first digit is there. -/
def readMagnitude (limits : Limits) (negative : Bool) (cs : List Char) : Parsed Json :=
  let whole := wholePart cs
  if whole.isEmpty then .error (.at cs)
  else
    let (decimals, r) := fraction (cs.drop whole.length)
    let (exponent, r) := power r
    let n := Nat.ofDigitChars 10 (whole ++ decimals) 0
    if decimals.isEmpty && exponent.isNone then
      if limits.digits.any (· < whole.length) then .error .beyond
      else .ok (int (if negative then -(n : Int) else n), r)
    else
      let d : Decimal := ⟨negative, n, exponent.getD 0 - decimals.length⟩
      .ok (real (Binary.ofDecimal d), r)

/-- A number. A sign without a digit is at fault itself. -/
def readNumber (limits : Limits) (cs : List Char) : Parsed Json :=
  match cs with
  | '-' :: r =>
    match readMagnitude limits true r with
    | .error (.at _) => .error (.at cs)
    | result => result
  | r => readMagnitude limits false r

/-! ## Values -/

/-- The names that stand for a value. -/
def names : List (List Char × Json) :=
  [("null".toList, null), ("true".toList, bool true), ("false".toList, bool false),
   ("NaN".toList, real .nan), ("Infinity".toList, real (.infinite false)),
   ("-Infinity".toList, real (.infinite true))]

/-- A value that is neither a text, a list nor an object. -/
def readAtom (limits : Limits) (cs : List Char) : Parsed Json :=
  match names.find? fun n => n.1.isPrefixOf cs with
  | some n => .ok (n.2, cs.drop n.1.length)
  | none => readNumber limits cs

/-- The limits inside a list or an object, unless it is nested too deep itself. -/
def Limits.inside (limits : Limits) : Option Limits :=
  match limits.depth with
  | none => some limits
  | some 0 => none
  | some (d + 1) => some { limits with depth := some d }

mutual

/-- A value. Every step that reads a part takes one unit of fuel. -/
def readValue : Nat → Limits → List Char → Parsed Json
  | 0, _, cs => .error (.at cs)
  | fuel + 1, limits, cs =>
    match cs with
    | '"' :: r => (readText r).map fun p => (text p.1, p.2)
    | '[' :: r =>
      match limits.inside with
      | none => .error .beyond
      | some limits =>
        match skip r with
        | ']' :: r' => .ok (list [], r')
        | r' => (readItems fuel limits r').map fun p => (list p.1, p.2)
    | '\x7b' :: r =>
      match limits.inside with
      | none => .error .beyond
      | some limits =>
        match skip r with
        | '\x7d' :: r' => .ok (object [], r')
        | r' => (readFields fuel limits [] r').map fun p => (object p.1, p.2)
    | _ => readAtom limits cs

def readItems : Nat → Limits → List Char → Parsed (List Json)
  | 0, _, cs => .error (.at cs)
  | fuel + 1, limits, cs =>
    match readValue fuel limits cs with
    | .error e => .error e
    | .ok (x, r) =>
      match skip r with
      | ']' :: r' => .ok ([x], r')
      | ',' :: r' => (readItems fuel limits (skip r')).map fun p => (x :: p.1, p.2)
      | r' => .error (.at r')

def readFields : Nat → Limits → List (String × Json) → List Char →
    Parsed (List (String × Json))
  | 0, _, _, cs => .error (.at cs)
  | fuel + 1, limits, before, cs =>
    match cs with
    | '"' :: r =>
      match readText r with
      | .error e => .error e
      | .ok (k, r) =>
        match skip r with
        | ':' :: r =>
          match readValue fuel limits (skip r) with
          | .error e => .error e
          | .ok (v, r) =>
            match skip r with
            | '\x7d' :: r' => .ok (put before k v, r')
            | ',' :: r' => readFields fuel limits (put before k v) (skip r')
            | r' => .error (.at r')
        | r => .error (.at r)
    | _ => .error (.at cs)

end

/-- Fuel for any text of a length: a bracket takes two units, every other part at most one for
each of its characters. -/
def fuelFor (length : Nat) : Nat := 2 * length + 2

/-- The value of a whole text, or why reading it stops. -/
def readAll (limits : Limits) (cs : List Char) : Except Stop Json :=
  match readValue (fuelFor cs.length) limits (skip cs) with
  | .error e => .error e
  | .ok (v, r) =>
    match skip r with
    | [] => .ok v
    | r' => .error (.at r')

/-- Why a text is not read: it is not JSON from a position on, or it goes beyond a limit. -/
inductive ReadError where
  | malformed (position : Nat)
  | beyondLimits
deriving DecidableEq, Repr

/-- The value of a text within limits. -/
def readWithin (limits : Limits) (s : String) : Except ReadError Json :=
  match readAll limits s.toList with
  | .ok v => .ok v
  | .error (.at r) => .error (.malformed (s.toList.length - r.length))
  | .error .beyond => .error .beyondLimits

def read (s : String) : Except ReadError Json := readWithin {} s

end Scrip.Json
