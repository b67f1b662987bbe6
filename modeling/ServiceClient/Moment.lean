/-
**Points in time.**

A configuration file can write a date, a time of day, or both, the latter with an offset from
universal time.  They are kept by their fields, in the proleptic calendar, with microseconds.

Main definitions:

* `ServiceClient.CalendarDate`, `ServiceClient.ClockTime`: a date, and a time of day;
* `ServiceClient.Moment`: a point in time;
* `ServiceClient.Moment.text`, `ServiceClient.Moment.literal`: its texts.
-/

set_option autoImplicit false

namespace ServiceClient

/-! ### Dates -/

structure CalendarDate where
  year : Nat
  month : Nat
  day : Nat
  deriving DecidableEq, Repr, Inhabited

namespace CalendarDate

def isLeap (year : Nat) : Bool :=
  year % 4 == 0 && (year % 100 != 0 || year % 400 == 0)

def monthLength (year month : Nat) : Nat :=
  if month = 2 then if isLeap year then 29 else 28
  else if [4, 6, 9, 11].contains month then 30
  else 31

def isValid (d : CalendarDate) : Bool :=
  1 ≤ d.year && d.year ≤ 9999 && 1 ≤ d.month && d.month ≤ 12 && 1 ≤ d.day &&
    d.day ≤ monthLength d.year d.month

end CalendarDate

/-! ### Times of day -/

structure ClockTime where
  hour : Nat
  minute : Nat
  second : Nat
  microsecond : Nat := 0
  deriving DecidableEq, Repr, Inhabited

/-- A time of the day, without leap seconds. -/
def ClockTime.isValid (t : ClockTime) : Bool :=
  t.hour < 24 && t.minute < 60 && t.second < 60 && t.microsecond < 1000000

/-! ### Points in time -/

inductive Moment
  | date (d : CalendarDate)
  | time (t : ClockTime)
  /-- A date and a time, with the minutes that it is ahead of universal time. -/
  | dateTime (d : CalendarDate) (t : ClockTime) (offset : Option Int)
  deriving DecidableEq, Repr, Inhabited

namespace Moment

/-- A number with zeros before it. -/
def padded (width n : Nat) : String :=
  let digits := (toString n).toList
  String.ofList (List.replicate (width - digits.length) '0' ++ digits)

def dateText (d : CalendarDate) : String :=
  padded 4 d.year ++ "-" ++ padded 2 d.month ++ "-" ++ padded 2 d.day

/-- The text of a time of day; a fraction of zero is left out. -/
def timeText (t : ClockTime) : String :=
  padded 2 t.hour ++ ":" ++ padded 2 t.minute ++ ":" ++ padded 2 t.second ++
    (if t.microsecond = 0 then "" else "." ++ padded 6 t.microsecond)

def offsetText (offset : Int) : String :=
  (if offset < 0 then "-" else "+") ++ padded 2 (offset.natAbs / 60) ++ ":" ++
    padded 2 (offset.natAbs % 60)

def text : Moment → String
  | .date d => dateText d
  | .time t => timeText t
  | .dateTime d t offset => dateText d ++ " " ++ timeText t ++ (offset.map offsetText).getD ""

/-- The fields of a time as arguments; seconds and a fraction of zero are left out. -/
def timeArguments (t : ClockTime) : List Nat :=
  if t.microsecond ≠ 0 then [t.hour, t.minute, t.second, t.microsecond]
  else if t.second ≠ 0 then [t.hour, t.minute, t.second]
  else [t.hour, t.minute]

def offsetLiteral (offset : Int) : String :=
  if offset = 0 then "datetime.timezone.utc"
  else
    let days := if offset < 0 then "days=-1, " else ""
    "datetime.timezone(datetime.timedelta(" ++ days ++ "seconds=" ++
      toString (offset % 1440 * 60) ++ "))"

def joined (ns : List Nat) : String :=
  ", ".intercalate (ns.map toString)

/-- The text of a point in time inside a list or a mapping. -/
def literal : Moment → String
  | .date d => "datetime.date(" ++ joined [d.year, d.month, d.day] ++ ")"
  | .time t => "datetime.time(" ++ joined (timeArguments t) ++ ")"
  | .dateTime d t offset =>
      "datetime.datetime(" ++ joined ([d.year, d.month, d.day] ++ timeArguments t) ++
        (offset.map fun o => ", tzinfo=" ++ offsetLiteral o).getD "" ++ ")"

end Moment

end ServiceClient
