set_option autoImplicit false

/-! # Characters and texts

What texts of all kinds share: the blank characters and trimming by them, the decimal digits of
every script, the number of digits of a number, and the text that stands for a missing one.
-/

namespace Scrip.Blank

/-! ## Blank characters

The set is the Unicode one: the ASCII blanks with the four separators `1C` to `1F`, the next
line and no-break characters, and the space separators. The byte order mark and the
zero-width characters are not blank. Whole numbers are trimmed by a narrower set, which does
without the four separators. -/

/-- The blank code points, as closed ranges in ascending order. -/
def ranges : List (Nat × Nat) :=
  [(0x09, 0x0D), (0x1C, 0x20), (0x85, 0x85), (0xA0, 0xA0), (0x1680, 0x1680),
   (0x2000, 0x200A), (0x2028, 0x2029), (0x202F, 0x202F), (0x205F, 0x205F),
   (0x3000, 0x3000)]

def isBlank (c : Char) : Bool :=
  ranges.any fun r => decide (r.1 ≤ c.toNat) && decide (c.toNat ≤ r.2)

/-- The test for white space in the narrow sense, which leaves the four separators out. -/
def isWhite (c : Char) : Bool :=
  isBlank c && !(decide (0x1C ≤ c.toNat) && decide (c.toNat ≤ 0x1F))

/-- The characters without those of a kind before the first and after the last other one. -/
def trimBy (p : Char → Bool) (cs : List Char) : List Char :=
  ((cs.dropWhile p).reverse.dropWhile p).reverse

def trim (cs : List Char) : List Char := trimBy isBlank cs

def trimText (s : String) : String := String.ofList (trim s.toList)

end Scrip.Blank

namespace Scrip.Digit

/-! ## Decimal digits

The ten digits of a script are consecutive, so a script is given by the code point of its zero.
Amounts of money may be written with the digits of any script. -/

/-- The code points of the zeros, one for each run of ten digits. -/
def zeros : List Nat :=
  [0x30, 0x660, 0x6F0, 0x7C0, 0x966, 0x9E6, 0xA66, 0xAE6, 0xB66, 0xBE6, 0xC66, 0xCE6,
   0xD66, 0xDE6, 0xE50, 0xED0, 0xF20, 0x1040, 0x1090, 0x17E0, 0x1810, 0x1946, 0x19D0,
   0x1A80, 0x1A90, 0x1B50, 0x1BB0, 0x1C40, 0x1C50, 0xA620, 0xA8D0, 0xA900, 0xA9D0,
   0xA9F0, 0xAA50, 0xABF0, 0xFF10, 0x104A0, 0x10D30, 0x11066, 0x110F0, 0x11136,
   0x111D0, 0x112F0, 0x11450, 0x114D0, 0x11650, 0x116C0, 0x11730, 0x118E0, 0x11950,
   0x11C50, 0x11D50, 0x11DA0, 0x16A60, 0x16AC0, 0x16B50, 0x1D7CE, 0x1D7D8, 0x1D7E2,
   0x1D7EC, 0x1D7F6, 0x1E140, 0x1E2F0, 0x1E950, 0x1FBF0]

/-- The ASCII form of a digit of any script; every other character stays itself. -/
def toAscii (c : Char) : Char :=
  match zeros.find? fun z => decide (z ≤ c.toNat) && decide (c.toNat ≤ z + 9) with
  | some z => Nat.digitChar (c.toNat - z)
  | none => c

/-- What is left of `n` when it is divided by `b` until it is less than `b`, and how often that
is done. The divisions by `b ^ 2` come first, so there are few of them; `fuel` counts the
squarings. -/
def divideOut (n : Nat) : Nat → Nat → Nat × Nat
  | _, 0 => (n, 0)
  | b, fuel + 1 =>
    if n < b then (n, 0)
    else
      let (q, e) := divideOut n (b * b) fuel
      if q < b then (q, 2 * e) else (q / b, 2 * e + 1)

/-- The number of decimal digits of `n`; zero has one. -/
def count (n : Nat) : Nat := (divideOut n 10 n.log2).2 + 1

end Scrip.Digit

namespace Scrip.Text

/-! ## Missing texts -/

/-- A text, or `other` in place of a missing or empty one. -/
def orElse (s : Option String) (other : String) : String :=
  match s with
  | none => other
  | some s => if s.isEmpty then other else s

end Scrip.Text
