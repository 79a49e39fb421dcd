set_option autoImplicit false

/-! # Request targets

The target of a request is a path and an optional query. Both may escape the bytes of their
characters by a percent sign and two hexadecimal digits; in a query a plus sign is a space as
well. A target may name a scheme and an authority, which do not count here, and a fragment,
which is not sent. The segments `.` and `..` of a path, unless escaped, stand for this place and
the one above it and are resolved first. A header is sent as UTF-8 and read byte by byte.
-/

namespace Scrip.Http

def hexValue? (c : Char) : Option Nat :=
  if '0' ≤ c ∧ c ≤ '9' then some (c.toNat - '0'.toNat)
  else if 'a' ≤ c ∧ c ≤ 'f' then some (c.toNat - 'a'.toNat + 10)
  else if 'A' ≤ c ∧ c ≤ 'F' then some (c.toNat - 'A'.toNat + 10)
  else none

def bytesOf (c : Char) : List Nat :=
  (String.ofList [c]).toUTF8.toList.map (·.toNat)

/-- The bytes of a text in which bytes may be escaped. An incomplete escape is text. -/
def unescape : List Char → List Nat
  | [] => []
  | '%' :: a :: b :: r =>
    match hexValue? a, hexValue? b with
    | some x, some y => (x * 16 + y) :: unescape r
    | _, _ => bytesOf '%' ++ unescape (a :: b :: r)
  | c :: r => bytesOf c ++ unescape r

/-- The text of bytes in UTF-8. Bytes that are not UTF-8 keep their ASCII characters only, and
every other byte is replaced. -/
def decode (bytes : List Nat) : String :=
  match String.fromUTF8? ⟨(bytes.map (·.toUInt8)).toArray⟩ with
  | some s => s
  | none =>
    String.ofList (bytes.map fun b => if b < 0x80 then Char.ofNat b else '\uFFFD')

/-- A text with its escapes resolved. -/
def resolve (cs : List Char) : String := decode (unescape cs)

/-- A header value as it is read: one character for each byte. -/
def readHeader (s : String) : String :=
  String.ofList (s.toUTF8.toList.map fun b => Char.ofNat b.toNat)

/-- The parts of a list between separators. -/
def splitOn (separator : Char) : List Char → List (List Char)
  | [] => [[]]
  | c :: r =>
    if c = separator then [] :: splitOn separator r
    else
      match splitOn separator r with
      | [] => [[c]]
      | p :: ps => (c :: p) :: ps

/-- A target: the segments of its path and the parameters of its query, in order. -/
structure Target where
  segments : List String
  query : List (String × String)
deriving DecidableEq, Repr

namespace Target

/-- A parameter: a name, and a value after the first equals sign. -/
def parameter (cs : List Char) : String × String :=
  let cs := cs.map fun c => if c = '+' then ' ' else c
  let name := cs.takeWhile (· != '=')
  (resolve name, resolve (cs.drop (name.length + 1)))

/-- Whether a character cannot stand in a target: it is an ASCII control. -/
def isForbidden (c : Char) : Bool := decide (c.toNat < 0x20) || c.toNat == 0x7F

def maxLength : Nat := 65536

def isSchemeChar (c : Char) : Bool := c.isAlphanum || c == '+' || c == '.' || c == '-'

/-- A text without a scheme, with whether there was one. A scheme starts with a letter or is
empty. -/
def withoutScheme (cs : List Char) : Bool × List Char :=
  let name := cs.takeWhile isSchemeChar
  match cs.drop name.length with
  | ':' :: r => if (name.take 1).all (·.isAlpha) then (!name.isEmpty, r) else (false, cs)
  | _ => (false, cs)

def withoutAuthority (cs : List Char) : Bool × List Char :=
  match cs with
  | '/' :: '/' :: r =>
    let name := r.takeWhile (· != '/')
    (!name.isEmpty, r.drop name.length)
  | _ => (false, cs)

/-- The path of a text without its query: what comes after a scheme and an authority. Unless
both are there, one slash stands at its start. -/
def pathOf (cs : List Char) : List Char :=
  let (hasScheme, r) := withoutScheme cs
  let (hasAuthority, r) := withoutAuthority r
  if hasScheme && hasAuthority then r else '/' :: r.dropWhile (· == '/')

/-- The segments of a path once `.` and `..` are resolved: the first is dropped, and the second
drops the segment before it, unless that is the empty one at the start. -/
def climb (before : List (List Char)) : List (List Char) → List (List Char)
  | [] => before.reverse
  | s :: r =>
    if s = ['.'] then climb before r
    else if s = ['.', '.'] then climb (if before = [[]] then before else before.tail) r
    else climb (s :: before) r

/-- The segments of a path, each with its escapes resolved. A resolved slash divides as well, and
an empty path means the same as a single slash. -/
def segmentsOf (path : List Char) : List String :=
  let climbed := ['/'].intercalate (climb [] (splitOn '/' path))
  let path := if climbed.isEmpty then ['/'] else climbed
  (splitOn '/' (resolve path).toList).map String.ofList

/-- The target that a text spells, if it can stand in a request at all. -/
def read? (s : String) : Option Target :=
  if s.toList.any isForbidden || maxLength < s.length then none
  else
    let cs := s.toList.takeWhile (· != '#')
    let path := cs.takeWhile (· != '?')
    let query := cs.drop (path.length + 1)
    let parts := (splitOn '&' query).filter (!·.isEmpty)
    some ⟨segmentsOf (pathOf path), parts.map parameter⟩

/-- The value of a parameter; of several with one name the last counts. -/
def parameter? (t : Target) (name : String) : Option String :=
  ((t.query.filter (·.1 == name)).getLast?).map (·.2)

end Target

end Scrip.Http
