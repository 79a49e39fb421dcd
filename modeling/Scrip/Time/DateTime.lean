set_option autoImplicit false

/-! # Dates with a time of day

A `Moment` is a reading of a clock, counted in microseconds from the start of 1970 on that
clock. A `DateTime` is a reading together with how far that clock is ahead of universal time,
where this is known; without it the date is bare. Two dates with an offset are ordered by the
instants that they name.

Written form: `YYYY-MM-DDTHH:MM:SS`, then six digits of a fraction unless it is zero, then the
offset where there is one: a sign, hours and minutes, and seconds unless there are none.
-/

namespace Scrip

/-! ## The calendar

Days are numbered from 1 January 1970. A year is counted from 1 March, so that a leap day is
the last day of its year; eras of 400 years all have the same number of days. The calendar
is the Gregorian one in both directions. -/

structure Date where
  year : Int
  month : Nat
  day : Nat
deriving DecidableEq, Repr

namespace Date

/-- The number of days in 400 years. -/
def eraDays : Int := 146097

/-- The number of days from 1 March of year 0 to 1 January 1970. -/
def epochShift : Int := 719468

/-- The number of the day of a date. -/
def toDay (d : Date) : Int :=
  let year := if d.month ≤ 2 then d.year - 1 else d.year
  let era := year / 400
  let yearOfEra := year - era * 400
  let month : Int := if d.month ≤ 2 then d.month + 9 else d.month - 3
  let dayOfYear := (153 * month + 2) / 5 + d.day - 1
  let dayOfEra := yearOfEra * 365 + yearOfEra / 4 - yearOfEra / 100 + dayOfYear
  era * eraDays + dayOfEra - epochShift

def ofDay (n : Int) : Date :=
  let z := n + epochShift
  let era := z / eraDays
  let dayOfEra := z - era * eraDays
  let yearOfEra :=
    (dayOfEra - dayOfEra / 1460 + dayOfEra / 36524 - dayOfEra / 146096) / 365
  let dayOfYear := dayOfEra - (365 * yearOfEra + yearOfEra / 4 - yearOfEra / 100)
  let month := (5 * dayOfYear + 2) / 153
  let day := dayOfYear - (153 * month + 2) / 5 + 1
  let civil := if month < 10 then month + 3 else month - 9
  let year := yearOfEra + era * 400
  ⟨if civil ≤ 2 then year + 1 else year, civil.toNat, day.toNat⟩

end Date

/-! ## Readings of a clock -/

/-- A reading of a clock in microseconds. -/
abbrev Moment : Type := Int

namespace Moment

def second : Int := 1000000

/-- The microseconds of a minute. -/
def minute : Int := 60 * second

def day : Int := 86400 * second

def date (m : Moment) : Date := Date.ofDay (m / day)

def ofParts (d : Date) (hour minute sec micro : Nat) : Moment :=
  d.toDay * day + ((hour * 60 + minute) * 60 + sec : Nat) * second + micro

/-- The first reading that a date can have: the start of year 1. -/
def first : Moment := Date.toDay ⟨1, 1, 1⟩ * day

/-- The end of the readings that a date can have: the start of year 10000. -/
def limit : Moment := Date.toDay ⟨10000, 1, 1⟩ * day

/-- Whether a reading has a date of four digits. -/
def isRepresentable (m : Moment) : Bool := decide (first ≤ m) && decide (m < limit)

/-- `n` in decimal, with leading zeros up to `width` digits. -/
def pad (width n : Nat) : String :=
  let ds := Nat.toDigits 10 n
  String.ofList (List.replicate (width - ds.length) '0' ++ ds)

/-- The written form of a reading, without an offset. -/
def iso (m : Moment) : String :=
  let d := m.date
  let ofDay := (m % day).toNat
  let micro := ofDay % 1000000
  let secs := ofDay / 1000000
  let base := pad 4 d.year.toNat ++ "-" ++ pad 2 d.month ++ "-" ++ pad 2 d.day ++ "T" ++
    pad 2 (secs / 3600) ++ ":" ++ pad 2 (secs / 60 % 60) ++ ":" ++ pad 2 (secs % 60)
  if micro = 0 then base else base ++ "." ++ pad 6 micro

end Moment

/-- A date with a time of day: a reading, and its offset in microseconds where it is known. -/
structure DateTime where
  wall : Moment
  offset : Option Int := none
deriving DecidableEq, Repr

namespace DateTime

def utc (m : Moment) : DateTime := ⟨m, some 0⟩

def bare (m : Moment) : DateTime := ⟨m, none⟩

/-- The reading of a clock of universal time at the same instant; a bare date counts as its
own reading. -/
def instant (t : DateTime) : Moment := t.wall - t.offset.getD 0

/-- The year and month that the date itself shows. -/
def month (t : DateTime) : Int × Nat := (t.wall.date.year, t.wall.date.month)

def isoOffset (offset : Int) : String :=
  let n := offset.natAbs
  let micro := n % 1000000
  let secs := n / 1000000
  (if offset < 0 then "-" else "+") ++ Moment.pad 2 (secs / 3600) ++ ":" ++
    Moment.pad 2 (secs / 60 % 60) ++
    (if secs % 60 = 0 && micro = 0 then "" else ":" ++ Moment.pad 2 (secs % 60)) ++
    if micro = 0 then "" else "." ++ Moment.pad 6 micro

def iso (t : DateTime) : String :=
  match t.offset with
  | none => t.wall.iso
  | some offset => t.wall.iso ++ isoOffset offset

/-! ## Reading -/

/-- The number of a group of exactly `width` digits at the start, and the text after it. -/
def number? (width : Nat) (cs : List Char) : Option (Nat × List Char) :=
  let ds := cs.take width
  if ds.length = width && ds.all (·.isDigit) then
    some (Nat.ofDigitChars 10 ds 0, cs.drop width)
  else
    none

/-- The text after one expected character. -/
def expect? (c : Char) : List Char → Option (List Char)
  | x :: r => if x = c then some r else none
  | [] => none

/-- A fraction of a second in microseconds: a point and up to six digits, or nothing. -/
def fraction? (cs : List Char) : Option (Nat × List Char) :=
  match cs with
  | '.' :: r =>
    let ds := r.takeWhile (·.isDigit)
    if ds.isEmpty || 6 < ds.length then none
    else some (Nat.ofDigitChars 10 (ds ++ List.replicate (6 - ds.length) '0') 0,
      r.drop ds.length)
  | _ => some (0, cs)

/-- The seconds of an offset in microseconds, or nothing. -/
def offsetSeconds? (cs : List Char) : Option (Nat × List Char) :=
  match cs with
  | ':' :: r => do
    let (sec, r) ← number? 2 r
    let (micro, r) ← fraction? r
    return (sec * 1000000 + micro, r)
  | _ => some (0, cs)

/-- The offset at the end of a date: hours, minutes and perhaps seconds after a sign, `Z`, or
nothing. -/
def offset? (cs : List Char) : Option (Option Int) :=
  match cs with
  | [] => some none
  | ['Z'] => some (some 0)
  | sign :: r => do
    let (h, r) ← number? 2 r
    let r ← expect? ':' r
    let (m, r) ← number? 2 r
    let (sec, r) ← offsetSeconds? r
    let n : Int := (h * 60 + m : Nat) * Moment.minute + sec
    match r, sign with
    | [], '+' => return some n
    | [], '-' => return some (-n)
    | _, _ => none

/-- The date that a text spells. -/
def read? (s : String) : Option DateTime := do
  let (year, r) ← number? 4 s.toList
  let r ← expect? '-' r
  let (month, r) ← number? 2 r
  let r ← expect? '-' r
  let (day, r) ← number? 2 r
  let r ← expect? 'T' r
  let (hour, r) ← number? 2 r
  let r ← expect? ':' r
  let (minute, r) ← number? 2 r
  let r ← expect? ':' r
  let (sec, r) ← number? 2 r
  let (micro, r) ← fraction? r
  let offset ← offset? r
  return ⟨Moment.ofParts ⟨year, month, day⟩ hour minute sec micro, offset⟩

end DateTime

end Scrip
