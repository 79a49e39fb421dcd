set_option autoImplicit false

/-! # Templates of log messages

A template is text with places for arguments. A place is a percent sign, then, each as wanted, the
key of the argument in brackets, flags, a width, a point with a precision, and a letter for the
size of the argument, which does not count; and last the conversion. Two percent signs stand for
one. `Template.pieces` takes a template apart; what is wrong with a place is found when it is
filled, because the places before it are filled first.
-/

namespace Scrip.Log

/-- The key of a place: none, one in brackets, or one whose bracket is not closed. -/
inductive Key where
  | absent
  | named (name : String)
  | unclosed
deriving DecidableEq, Repr

structure Flags where
  left : Bool
  plus : Bool
  blank : Bool
  marked : Bool
  zeros : Bool
deriving DecidableEq, Repr

/-- A width or a precision: a number, or the next argument. -/
inductive Measure where
  | fixed (n : Nat)
  | argument
deriving DecidableEq, Repr

/-- A place for an argument. Without a conversion the template ends inside the place. -/
structure Place where
  key : Key
  flags : Flags
  width : Option Measure
  precision : Option Measure
  conversion : Option Char
  position : Nat
deriving DecidableEq, Repr

/-- A piece of a template. -/
inductive Piece where
  | literal (c : Char)
  | place (p : Place)
deriving DecidableEq, Repr

namespace Template

/-- The number of characters before the bracket that closes a key. Brackets inside the key come
in pairs; `depth` of them are open. -/
def keyLength : Nat → List Char → Option Nat
  | _, [] => none
  | depth, c :: r =>
    if c = ')' then
      match depth with
      | 0 => some 0
      | d + 1 => (keyLength d r).map (· + 1)
    else (keyLength (if c = '(' then depth + 1 else depth) r).map (· + 1)

/-- The key at the start of a text, and how many characters it takes. -/
def readKey (cs : List Char) : Key × Nat :=
  match cs with
  | '(' :: r =>
    match keyLength 0 r with
    | some n => (.named (String.ofList (r.take n)), n + 2)
    | none => (.unclosed, cs.length)
  | _ => (.absent, 0)

def isFlag (c : Char) : Bool := c == '-' || c == '+' || c == ' ' || c == '#' || c == '0'

def flagsOf (cs : List Char) : Flags :=
  ⟨cs.contains '-', cs.contains '+', cs.contains ' ', cs.contains '#', cs.contains '0'⟩

/-- The measure at the start of a text, and how many characters it takes. -/
def readMeasure (cs : List Char) : Option Measure × Nat :=
  match cs with
  | '*' :: _ => (some .argument, 1)
  | _ =>
    let ds := cs.takeWhile (·.isDigit)
    if ds.isEmpty then (none, 0) else (some (.fixed (Nat.ofDigitChars 10 ds 0)), ds.length)

/-- The precision at the start of a text, and how many characters it takes. A point alone stands
for zero. -/
def readPrecision (cs : List Char) : Option Measure × Nat :=
  match cs with
  | '.' :: r =>
    let (m, n) := readMeasure r
    (some (m.getD (.fixed 0)), n + 1)
  | _ => (none, 0)

/-- The number of characters, none or one, that tell the size of an argument. -/
def sizeLength (cs : List Char) : Nat :=
  match cs with
  | 'h' :: _ => 1
  | 'l' :: _ => 1
  | 'L' :: _ => 1
  | _ => 0

/-- The place at the start of a text, which follows a percent sign and stands at a position of the
template, and how many characters it takes. -/
def readPlace (position : Nat) (cs : List Char) : Place × Nat :=
  let (key, k) := readKey cs
  let flags := (cs.drop k).takeWhile isFlag
  let f := k + flags.length
  let (width, n) := readMeasure (cs.drop f)
  let w := f + n
  let (precision, n) := readPrecision (cs.drop w)
  let p := w + n
  let s := p + sizeLength (cs.drop p)
  (⟨key, flagsOf flags, width, precision, (cs.drop s).head?, position + s⟩, s + 1)

/-- The pieces of a text that stands at a position of the template. -/
def piecesFrom (position : Nat) : List Char → List Piece
  | [] => []
  | '%' :: '%' :: r => .literal '%' :: piecesFrom (position + 2) r
  | '%' :: r =>
    let p := readPlace (position + 1) r
    .place p.1 :: piecesFrom (position + 1 + p.2) (r.drop p.2)
  | c :: r => .literal c :: piecesFrom (position + 1) r
termination_by cs => cs.length
decreasing_by all_goals (simp only [List.length_cons, List.length_drop]; omega)

def pieces (template : String) : List Piece := piecesFrom 0 template.toList

end Template

end Scrip.Log
