import Scrip.Error.Failure
set_option autoImplicit false

/-! # Setting up logging

Logging is set up with the name of a level and of a format. The root logger then has exactly
one handler, whatever it had before, and the logger of the database engine stays at warnings.
-/

namespace Scrip.Log

/-- The format of the lines of a handler. -/
inductive Format where
  | json
  | plain
deriving DecidableEq, Repr

def Format.name : Format → String
  | json => "JSONFormatter"
  | plain => "Formatter"

/-- The format with a name: exactly `json`, or else plain text. -/
def Format.ofName (s : String) : Format := if s = "json" then json else plain

/-- The format that a value names; one that is no text names none, and so means plain text. -/
def Format.ofJson : Json → Format
  | .text s => ofName s
  | _ => plain

def levels : List (String × Int) :=
  [("NOTSET", 0), ("DEBUG", 10), ("INFO", 20), ("WARN", 30), ("WARNING", 30), ("ERROR", 40),
   ("CRITICAL", 50), ("FATAL", 50)]

/-- Characters beyond ASCII whose capital form is ASCII, with that form. -/
def asciiCapitals : List (Char × String) :=
  [('\u00DF', "SS"), ('\u0131', "I"), ('\u017F', "S"), ('\uFB00', "FF"), ('\uFB01', "FI"),
   ('\uFB02', "FL"), ('\uFB03', "FFI"), ('\uFB04', "FFL"), ('\uFB05', "ST"),
   ('\uFB06', "ST")]

/-- A text in capital letters, as far as they are ASCII. -/
def capital (s : String) : String :=
  String.ofList (s.toList.flatMap fun c =>
    match asciiCapitals.find? (·.1 == c) with
    | some p => p.2.toList
    | none => [c.toUpper])

/-- The plain layout of lines without a time, which has a name like a level. -/
def basicLayout : String := "%(levelname)s:%(name)s:%(message)s"

/-- The number of a level by its name in any letter case; an unknown name means `INFO`. Two names
beside those of levels are known, and what they stand for is no level. -/
def levelNumber (name : String) : Except Failure Int :=
  let name := capital name
  if name = "BASIC_FORMAT" then .error (.crash .value s!"Unknown level: '{basicLayout}'")
  else if name = "_STYLES" then .error .wrongType
  else
    match levels.find? (·.1 == name) with
    | some l => .ok l.2
    | none => .ok 20

/-- The number of the level that a value names; only a text can name one. -/
def levelOfJson : Json → Except Failure Int
  | .text s => levelNumber s
  | _ => .error .noAttribute

/-- The state of logging that setting it up determines. -/
structure Setup where
  level : Int
  engineLevel : Int
  handlers : List Format
deriving DecidableEq, Repr

def Setup.initial : Setup := ⟨30, 0, []⟩

/-- Sets logging up: earlier handlers go, one new one comes. -/
def Setup.install (_ : Setup) (level format : Json) : Except Failure Setup :=
  (levelOfJson level).map fun n => ⟨n, 30, [Format.ofJson format]⟩

end Scrip.Log
