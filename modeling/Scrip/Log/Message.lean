import Scrip.Decimal.Fixed
import Scrip.Error.Failure
import Scrip.Log.Template
set_option autoImplicit false

/-! # Messages of log records

A record has a template and arguments. Without arguments the template is the message. With
arguments, each place of the template takes the next one, and there must be exactly as many
arguments as places; but if an object that is not empty is the only argument, places take the
values of its fields by their keys, or the object itself. The conversion of a place tells how
the argument is shown: as text (`s`, `r`, `a`), as a whole number (`d`, `i`, `u`, `o`, `x`, `X`),
as a floating point number (`e`, `f`, `g` and their capitals) or as one character (`c`).
-/

namespace Scrip.Log

/-- The arguments that are left for a message. -/
inductive Arguments where
  | listed (rest : List Json)
  | keyed (fields : List (String × Json)) (current : Option Json)

namespace Arguments

/-- The arguments of a record. -/
def ofList : List Json → Arguments
  | [.object (f :: fields)] => keyed (f :: fields) (some (.object (f :: fields)))
  | args => listed args

/-- The next argument, and those after it. -/
def next : Arguments → Except Failure (Json × Arguments)
  | listed [] => .error .wrongType
  | listed (a :: rest) => .ok (a, listed rest)
  | keyed _ none => .error .wrongType
  | keyed fields (some a) => .ok (a, keyed fields none)

/-- The arguments once a place has chosen its one by a key. -/
def select (args : Arguments) (key : Key) : Except Failure Arguments :=
  match key, args with
  | .absent, args => .ok args
  | _, listed _ => .error .wrongType
  | .unclosed, keyed _ _ => .error (.crash .value "incomplete format key")
  | .named name, keyed fields _ =>
    match Json.lookup fields name with
    | some a => .ok (keyed fields (some a))
    | none => .error (.crash .key name)

/-- Whether no argument is left that a place should have taken. -/
def isDone : Arguments → Bool
  | listed rest => rest.isEmpty
  | keyed _ _ => true

end Arguments

/-! ## Measures -/

def maxWidth : Nat := Nat.pow 2 63 - 1

def maxPrecision : Nat := Nat.pow 2 31 - 1

/-- The greatest width of a text that memory holds. -/
def memoryWidth : Nat := Nat.pow 2 36

/-- An argument as a measure, within a bound on both sides. -/
def measureOf (bound : Nat) (j : Json) : Except Failure Int :=
  let within (n : Int) : Except Failure Int :=
    if -(bound : Int) - 1 ≤ n ∧ n ≤ bound then .ok n else .error .overflow
  match j with
  | .int n => within n
  | .bool b => .ok (if b then 1 else 0)
  | _ => .error .wrongType

/-- The value of a measure of a kind, and the arguments after it. -/
def measure (kind : String) (bound : Nat) (m : Option Measure) (args : Arguments) :
    Except Failure (Option Int × Arguments) :=
  match m with
  | none => .ok (none, args)
  | some (.fixed n) =>
    if bound < n then .error (.crash .value (kind ++ " too big")) else .ok (some n, args)
  | some .argument => do
    let (a, args) ← args.next
    return (some (← measureOf bound a), args)

/-! ## Conversions -/

/-- A converted argument: a sign, a mark of the base, and the rest. Only a number is filled up
with zeros. -/
structure Shown where
  isNumber : Bool
  isNegative : Bool := false
  mark : List Char := []
  body : List Char

/-- A converted argument in a place of a width. -/
def Shown.fit (s : Shown) (flags : Flags) (width : Nat) : List Char :=
  let sign :=
    if s.isNegative then ['-']
    else if !s.isNumber then []
    else if flags.plus then ['+']
    else if flags.blank then [' ']
    else []
  let start := sign ++ s.mark
  let missing := width - (start.length + s.body.length)
  if flags.left then start ++ s.body ++ List.replicate missing ' '
  else if flags.zeros && s.isNumber then start ++ List.replicate missing '0' ++ s.body
  else List.replicate missing ' ' ++ start ++ s.body

/-- An argument as text, cut to a precision. -/
def shownText (cs : List Char) (precision : Option Nat) : Shown :=
  ⟨false, false, [], match precision with
    | some n => cs.take n
    | none => cs⟩

/-- A text in which every character beyond ASCII is escaped. -/
def asciiText (s : String) : List Char :=
  s.toList.flatMap fun c =>
    if c.toNat < 0x80 then [c] else Quoted.escapeCode ((Half.unit? c).getD c.toNat)

/-- An argument as a whole number. A fraction is dropped where it may be. -/
def wholeOf (mayDrop : Bool) (j : Json) : Except Failure Int :=
  match j with
  | .int n => .ok n
  | .bool b => .ok (if b then 1 else 0)
  | .real x =>
    if mayDrop then
      match x with
      | .finite negative m q =>
        let v := Binary.ratio m q
        let n : Int := (v.1 / v.2 : Nat)
        .ok (if negative then -n else n)
      | .infinite _ => .error .overflow
      | .nan => .error (.crash .value "cannot convert float NaN to integer")
    else .error .wrongType
  | _ => .error .wrongType

/-- The most digits up to which a whole number is filled up with zeros. -/
def maxDigits : Nat := Nat.pow 2 31 - 4

/-- A whole number in a base, with at least as many digits as the precision says. -/
def shownWhole (n : Int) (base : Nat) (mark : List Char) (precision : Option Nat) :
    Except Failure Shown :=
  let digits := Nat.toDigits base n.natAbs
  let least := precision.getD 0
  if maxDigits < least then .error .overflow
  else .ok ⟨true, decide (n < 0), mark,
    List.replicate (least - digits.length) '0' ++ digits⟩

/-- An argument as a floating point number. -/
def binaryOf (j : Json) : Except Failure Binary :=
  let ofInt (n : Int) : Except Failure Binary :=
    match Binary.ofInt n with
    | .infinite _ => .error .overflow
    | x => .ok x
  match j with
  | .int n => ofInt n
  | .bool b => ofInt (if b then 1 else 0)
  | .real x => .ok x
  | _ => .error .wrongType

/-- A floating point number in a style. -/
def shownBinary (x : Binary) (style : Binary.Style) (kept : Bool) (precision : Option Nat) :
    Shown :=
  match x with
  | .nan => ⟨true, false, [], "nan".toList⟩
  | .infinite negative => ⟨true, negative, [], "inf".toList⟩
  | .finite negative m q =>
    ⟨true, negative, [], Binary.styled style (precision.getD 6) kept m q⟩

/-- An argument as one character: a text of one, or a code point. -/
def characterOf (j : Json) : Except Failure Char :=
  let ofPoint (n : Int) : Except Failure Char :=
    if 0 ≤ n ∧ n < 0x110000 then .ok (Half.ofUnit n.toNat) else .error .overflow
  match j with
  | .int n => ofPoint n
  | .bool b => ofPoint (if b then 1 else 0)
  | .text s =>
    match s.toList with
    | [c] => .ok c
    | _ => .error .wrongType
  | _ => .error .wrongType

/-- The same with capital letters. -/
def Shown.capital (s : Shown) : Shown :=
  { s with mark := s.mark.map Char.toUpper, body := s.body.map Char.toUpper }

/-- The failure of a conversion that does not exist. -/
def unknownConversion (c : Char) (position : Nat) : Failure :=
  let code := (Half.unit? c).getD c.toNat
  let shown := if 31 ≤ code && code ≤ 126 then c else '?'
  let hex := String.ofList (Nat.toDigits 16 code)
  .crash .value s!"unsupported format character '{shown}' (0x{hex}) at index {position}"

/-- An argument in the conversion of a place. -/
def convert (p : Place) (c : Char) (precision : Option Nat) (a : Json) : Except Failure Shown :=
  let marked (mark : List Char) : List Char := if p.flags.marked then mark else []
  let whole : Except Failure Shown := do shownWhole (← wholeOf true a) 10 [] precision
  let inBase (base : Nat) (mark : List Char) : Except Failure Shown := do
    shownWhole (← wholeOf false a) base (marked mark) precision
  let real (style : Binary.Style) : Except Failure Shown := do
    return shownBinary (← binaryOf a) style p.flags.marked precision
  match c with
  | 's' => .ok (shownText a.shown.toList precision)
  | 'r' => .ok (shownText a.spelled.toList precision)
  | 'a' => .ok (shownText (asciiText a.spelled) precision)
  | 'd' => whole
  | 'i' => whole
  | 'u' => whole
  | 'o' => inBase 8 ['0', 'o']
  | 'x' => inBase 16 ['0', 'x']
  | 'X' => (inBase 16 ['0', 'x']).map (·.capital)
  | 'e' => real .scientific
  | 'E' => (real .scientific).map (·.capital)
  | 'f' => real .fixed
  | 'F' => (real .fixed).map (·.capital)
  | 'g' => real .general
  | 'G' => (real .general).map (·.capital)
  | 'c' => (characterOf a).map fun c => ⟨false, false, [], [c]⟩
  | _ => .error (unknownConversion c p.position)

/-! ## Filling -/

/-- What stands in a place, and the arguments after it. A negative width means its amount on the
left, a negative precision none. -/
def fillPlace (p : Place) (args : Arguments) : Except Failure (List Char × Arguments) := do
  let args ← args.select p.key
  let (width, args) ← measure "width" maxWidth p.width args
  let (precision, args) ← measure "precision" maxPrecision p.precision args
  match p.conversion with
  | none => .error (.crash .value "incomplete format")
  | some c =>
    let (a, args) ← args.next
    let shown ← convert p c (precision.map (·.toNat)) a
    let width := width.getD 0
    if memoryWidth < width.natAbs then .error .outOfMemory
    else
      let flags := if width < 0 then { p.flags with left := true } else p.flags
      return (shown.fit flags width.natAbs, args)

/-- The text of pieces with their arguments. -/
def fill : List Piece → Arguments → Except Failure (List Char)
  | [], args => if args.isDone then .ok [] else .error .wrongType
  | .literal c :: r, args => (fill r args).map (c :: ·)
  | .place p :: r, args =>
    match fillPlace p args with
    | .error e => .error e
    | .ok (cs, args) => (fill r args).map (cs ++ ·)

def message (template : String) (args : List Json) : Except Failure String :=
  if args.isEmpty then .ok template
  else (fill (Template.pieces template) (.ofList args)).map String.ofList

end Scrip.Log
