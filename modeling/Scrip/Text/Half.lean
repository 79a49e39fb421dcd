set_option autoImplicit false

/-! # Texts from code units

The code units of UTF-16, half surrogate pairs among them, and the texts that bytes spell in one
of the encodings of Unicode.
-/

namespace Scrip.Half

/-! ## Halves of surrogate pairs

An escape in a JSON text may name one half of a surrogate pair without the other. Such a code
unit is no character, so a text holds a stand-in for it: the character of the thirteenth plane,
where Unicode has no characters, whose last sixteen bits are the unit. -/

/-- Whether a code unit is the first half of a surrogate pair. -/
def isHigh (u : Nat) : Bool := decide (0xD800 ≤ u) && decide (u ≤ 0xDBFF)

/-- Whether a code unit is the second half of a surrogate pair. -/
def isLow (u : Nat) : Bool := decide (0xDC00 ≤ u) && decide (u ≤ 0xDFFF)

def isHalf (u : Nat) : Bool := isHigh u || isLow u

/-- The first code point of the plane of the stand-ins. -/
def plane : Nat := 0xD0000

/-- The character of a code unit, which for half a surrogate pair is its stand-in. -/
def ofUnit (u : Nat) : Char := if isHalf u then Char.ofNat (plane + u) else Char.ofNat u

def ofPair (high low : Nat) : Char :=
  Char.ofNat (0x10000 + (high - 0xD800) * 0x400 + (low - 0xDC00))

/-- The code unit that a character stands in for, if it does. -/
def unit? (c : Char) : Option Nat :=
  let u := c.toNat - plane
  if decide (plane ≤ c.toNat) && isHalf u then some u else none

def occursIn (s : String) : Bool := s.toList.any fun c => (unit? c).isSome

end Scrip.Half

namespace Scrip

/-! ## Encodings of JSON texts

A JSON text comes in one of the encodings of Unicode. Its first two characters are ASCII, so the
zero bytes among the first four tell which encoding it is and in which order the bytes of a
unit stand. A byte order mark in UTF-8 at the start does not belong to the text. -/

/-- An encoding; in those with units of several bytes the greatest byte is the first or the
last. -/
inductive Encoding where
  | utf8
  | utf16 (greatestFirst : Bool)
  | utf32 (greatestFirst : Bool)
deriving DecidableEq, Repr

namespace Encoding

def detect : List Nat → Encoding
  | [a, b] => if a = 0 then utf16 true else if b = 0 then utf16 false else utf8
  | a :: b :: c :: d :: _ =>
    if a = 0 then if b = 0 then utf32 true else utf16 true
    else if b = 0 then if c = 0 && d = 0 then utf32 false else utf16 false
    else utf8
  | _ => utf8

def unit (greatestFirst : Bool) (bytes : List Nat) : Nat :=
  (if greatestFirst then bytes else bytes.reverse).foldl (fun n b => n * 256 + b) 0

def pairs (greatestFirst : Bool) : List Nat → Option (List Nat)
  | [] => some []
  | [_] => none
  | a :: b :: r => (pairs greatestFirst r).map (unit greatestFirst [a, b] :: ·)

def quadruples (greatestFirst : Bool) : List Nat → Option (List Nat)
  | [] => some []
  | a :: b :: c :: d :: r =>
    (quadruples greatestFirst r).map (unit greatestFirst [a, b, c, d] :: ·)
  | _ => none

/-- The characters of units of two bytes. Half a surrogate pair stays what it is. -/
def charsOfUnits : List Nat → List Char
  | [] => []
  | [u] => [Half.ofUnit u]
  | u :: w :: r =>
    if Half.isHigh u && Half.isLow w then Half.ofPair u w :: charsOfUnits r
    else Half.ofUnit u :: charsOfUnits (w :: r)

/-- The characters of code points, all of which must be in the range of Unicode. -/
def charsOfPoints (points : List Nat) : Option (List Char) :=
  if points.all (· < 0x110000) then some (points.map Half.ofUnit) else none

/-- A text without a byte order mark at its start. -/
def unmarked (s : String) : String :=
  match s.toList with
  | '\uFEFF' :: r => String.ofList r
  | _ => s

/-- The text that bytes spell as JSON would be encoded, if they do. -/
def textOf? (bytes : ByteArray) : Option String :=
  let units := bytes.toList.map (·.toNat)
  match detect units with
  | utf8 => (String.fromUTF8? bytes).map unmarked
  | utf16 greatestFirst =>
    (pairs greatestFirst units).map fun us => String.ofList (charsOfUnits us)
  | utf32 greatestFirst =>
    ((quadruples greatestFirst units).bind charsOfPoints).map String.ofList

end Encoding

end Scrip
