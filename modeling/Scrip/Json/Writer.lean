import Scrip.Json.Basic
import Scrip.Text.Quoted
set_option autoImplicit false

/-! # Writing JSON

The two ways to write a value: as one line of JSON, and as a message shows a value that it refuses.
-/

namespace Scrip.Json

/-! ## Lines

A comma and a space between elements, a colon and a space after a key, fields in their order. In a
text only the quote, the backslash and the control characters are escaped; all others stand for
themselves. -/

def escape (c : Char) : List Char :=
  if c == '"' then ['\\', '"']
  else if c == '\\' then ['\\', '\\']
  else if c == '\n' then ['\\', 'n']
  else if c == '\r' then ['\\', 'r']
  else if c == '\t' then ['\\', 't']
  else if c == '\x08' then ['\\', 'b']
  else if c == '\x0c' then ['\\', 'f']
  else if c.toNat < 0x20 then '\\' :: 'u' :: Quoted.hex 4 c.toNat
  else [c]

def writeText (s : String) : List Char := '"' :: (s.toList.flatMap escape ++ ['"'])

/-- A floating point number; the values that are no number have names. -/
def writeReal : Binary → List Char
  | .nan => "NaN".toList
  | .infinite negative => (if negative then "-Infinity" else "Infinity").toList
  | x => x.text.toList

def writeInt (n : Int) : List Char :=
  if n < 0 then '-' :: Nat.toDigits 10 n.natAbs else Nat.toDigits 10 n.natAbs

mutual

/-- The characters of a value. -/
def write : Json → List Char
  | null => "null".toList
  | bool b => (if b then "true" else "false").toList
  | int n => writeInt n
  | real x => writeReal x
  | text s => writeText s
  | list [] => ['[', ']']
  | list (x :: xs) => '[' :: (write x ++ writeItems xs)
  | object [] => ['\x7b', '\x7d']
  | object ((k, v) :: r) => '\x7b' :: (writeText k ++ ':' :: ' ' :: (write v ++ writeFields r))

/-- The elements of a list after the first, with the closing bracket. -/
def writeItems : List Json → List Char
  | [] => [']']
  | x :: xs => ',' :: ' ' :: (write x ++ writeItems xs)

/-- The fields of an object after the first, with the closing brace. -/
def writeFields : List (String × Json) → List Char
  | [] => ['\x7d']
  | (k, v) :: r => ',' :: ' ' :: (writeText k ++ ':' :: ' ' :: (write v ++ writeFields r))

end

def render (j : Json) : String := String.ofList (write j)

/-! ## Spellings inside messages

Truth values and null by capitalised names, texts in quotes, lists and objects in brackets. -/

mutual

/-- The spelling of a value. -/
def spelled : Json → String
  | null => "None"
  | bool b => if b then "True" else "False"
  | int n => toString n
  | real x => x.text
  | text s => Quoted.quote s
  | list xs => "[" ++ ", ".intercalate (spelledItems xs) ++ "]"
  | object fields => "\x7b" ++ ", ".intercalate (spelledFields fields) ++ "\x7d"

def spelledItems : List Json → List String
  | [] => []
  | x :: xs => spelled x :: spelledItems xs

def spelledFields : List (String × Json) → List String
  | [] => []
  | (k, v) :: r => (Quoted.quote k ++ ": " ++ spelled v) :: spelledFields r

end

/-- A value shown as itself: a text without its quotes, all else as it is spelled. -/
def shown : Json → String
  | text s => s
  | j => j.spelled

end Scrip.Json
