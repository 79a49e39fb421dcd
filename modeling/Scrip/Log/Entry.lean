import Scrip.Json.Writer
import Scrip.Log.Message
import Scrip.Log.Setup
import Scrip.Time.DateTime
set_option autoImplicit false

/-! # Log lines

Each log record becomes one JSON object on one line: time, level, logger and message, then the
parts of the ledger's context that are set, in a fixed order, then the exception if there
is one. A record whose time has no date, or whose template does not take its arguments, has no line.
-/

namespace Scrip.Log

/-- The keys of the ledger's context, in the order in which a line shows them. -/
def contextKeys : List String :=
  ["account_id", "item_id", "transaction_id", "amount", "stage", "tier", "error_code", "path"]

def levelName (n : Int) : String :=
  if n = 0 then "NOTSET"
  else if n = 10 then "DEBUG"
  else if n = 20 then "INFO"
  else if n = 30 then "WARNING"
  else if n = 40 then "ERROR"
  else if n = 50 then "CRITICAL"
  else s!"Level {n}"

/-- The name of the level that a value is the number of. -/
def levelText (j : Json) : String :=
  match j with
  | .int n => levelName n
  | .real x =>
    match x.whole? with
    | some n => if (levels.map (·.2)).contains n then levelName n else s!"Level {x.text}"
    | none => s!"Level {x.text}"
  | j => s!"Level {j.shown}"

/-- The bound of the years, counted from 1900, that a clock can show at all. -/
def clockYears : Int := Nat.pow 2 31

/-- The bound of the seconds that a clock counts. -/
def clockSeconds : Int := Nat.pow 2 63

/-- A reading that has a date. The message on one that has none names the year in a word of
32 bits. -/
def withDate (m : Moment) : Except Failure Moment :=
  let year := m.date.year
  if year - 1900 < -clockYears || clockYears ≤ year - 1900 then .error (.crash .system "")
  else if m.isRepresentable then .ok m
  else .error (.crash .value s!"year {Int.bmod year (Nat.pow 2 32)} is out of range")

/-- The reading of a clock of universal time that shows a number of seconds since 1970, a part
of a microsecond being rounded, a half to the even neighbour. -/
def momentOfSeconds : Json → Except Failure Moment
  | .int n => ofInt n
  | .bool b => ofInt (if b then 1 else 0)
  | .real (.finite negative m q) =>
    let v := Binary.ratio m q
    let micros := match Binary.ofRatio false (v.1 % v.2 * 1000000) v.2 with
      | .finite _ m q =>
        let w := Binary.ratio m q
        Decimal.divEven w.1 w.2
      | _ => 0
    let total : Int := (v.1 / v.2 * 1000000 + micros : Nat)
    if clockSeconds < (v.1 / v.2 : Nat) then .error .overflow
    else withDate (if negative then -total else total)
  | .real (.infinite _) => .error .overflow
  | .real .nan => .error (.crash .value "Invalid value NaN (not a number)")
  | _ => .error .wrongType
where
  ofInt (n : Int) : Except Failure Moment :=
    if n < -clockSeconds || clockSeconds ≤ n then .error .overflow
    else withDate (n * Moment.second)

/-- The value of a key in a context, unless it is not set or null. -/
def contextValue? (context : List (String × Json)) (key : String) : Option Json :=
  match Json.lookup context key with
  | some .null => none
  | v => v

/-- What a line says of a record. -/
structure Entry where
  created : Moment
  level : String
  logger : String
  message : String
  context : List (String × Json)
  exception : Option String

namespace Entry

/-- The fields of the context that are set. -/
def contextFields (e : Entry) : List (String × Json) :=
  contextKeys.filterMap fun key => (contextValue? e.context key).map fun v => (key, v)

def fields (e : Entry) : List (String × Json) :=
  [("timestamp", .text (DateTime.utc e.created).iso),
    ("level", .text e.level),
    ("logger", .text e.logger),
    ("message", .text e.message)] ++ e.contextFields ++
    match e.exception with
    | none => []
    | some s => [("exception", .text s)]

def line (e : Entry) : String := (Json.object e.fields).render

end Entry

/-! ## Records -/

/-- The text of an exception: its name, and its message unless that is empty. -/
def exceptionText (name message : String) : String :=
  if message.isEmpty then name else name ++ ": " ++ message

/-- A log record: the seconds since 1970, the number of its level, the logger, a template with its
arguments, what is attached to it, and the failure that is logged with it. -/
structure Record where
  seconds : Json
  level : Json
  logger : String
  template : Json
  arguments : List Json
  context : List (String × Json)
  failure : Option Failure

namespace Record

def entry (r : Record) : Except Failure Entry := do
  let created ← momentOfSeconds r.seconds
  let message ← message r.template.shown r.arguments
  return {
    created := created
    level := levelText r.level
    logger := r.logger
    message := message
    context := r.context
    exception := r.failure.map fun e => exceptionText e.name e.describe }

def line (r : Record) : Except Failure String := r.entry.map (·.line)

end Record

end Scrip.Log
