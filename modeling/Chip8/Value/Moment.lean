import Chip8.Numeral

/-!
# Calendar dates and moments

Dates and moments can stand in settings data, where they serve as nothing but a wrong kind of value
or an odd kind of key. So all that is kept of them is when they are valid, when two moments are the
same, and how they are written, plainly (`2001-12-14`) and in full (`datetime.date(2001, 12, 14)`).
-/

namespace Chip8

/-- A day of the Gregorian calendar. -/
structure Date where
  year : Nat
  month : Nat
  day : Nat
  deriving DecidableEq

/-- A moment: a day, a time of day, and the distance of the local time from universal time in
seconds, if it is known. -/
structure Moment where
  date : Date
  hour : Nat
  minute : Nat
  second : Nat
  microsecond : Nat
  offset : Option Int
  deriving DecidableEq

/-- Why numbers do not make a date or a moment. -/
inductive CalendarError where
  | year (year : Nat)
  | month
  | day
  | hour
  | minute
  | second
  | offset (seconds : Int)
  deriving DecidableEq

def Date.daysIn (year month : Nat) : Nat :=
  if month == 2 then
    if year % 4 == 0 && (year % 100 != 0 || year % 400 == 0) then 29 else 28
  else if month == 4 || month == 6 || month == 9 || month == 11 then 30
  else 31

/-- A date from its numbers, if the calendar has it. -/
def Date.make (year month day : Nat) : Except CalendarError Date :=
  if year < 1 || 9999 < year then .error (.year year)
  else if month < 1 || 12 < month then .error .month
  else if day < 1 || Date.daysIn year month < day then .error .day
  else .ok ⟨year, month, day⟩

/-- A moment from a date and the numbers of a time of day. -/
def Moment.make (date : Except CalendarError Date) (hour minute second microsecond : Nat)
    (offset : Option Int) : Except CalendarError Moment :=
  match offset.filter fun seconds => 86400 ≤ seconds.natAbs with
  | some seconds => .error (.offset seconds)
  | none =>
    match date with
    | .error e => .error e
    | .ok date =>
      if 23 < hour then .error .hour
      else if 59 < minute then .error .minute
      else if 59 < second then .error .second
      else .ok ⟨date, hour, minute, second, microsecond, offset⟩

/-- The number of days from the first of January of the year 1 to the first of January of a year. -/
def daysBefore (year : Int) : Int :=
  365 * (year - 1) + Int.fdiv (year - 1) 4 - Int.fdiv (year - 1) 100 + Int.fdiv (year - 1) 400

/-- The number of days from the first of January of the year 1 to a date. -/
def Date.ordinal (d : Date) : Int :=
  let before := (List.range (d.month - 1)).foldl (fun days m => days + Date.daysIn d.year (m + 1)) 0
  daysBefore d.year + before + d.day - 1

/-- The microseconds from the beginning of the year 1 to a moment, by its own clock. -/
def Moment.reading (m : Moment) : Int :=
  (((m.date.ordinal * 24 + m.hour) * 60 + m.minute) * 60 + m.second) * 1000000 + m.microsecond

/-- Whether two moments are the same. If the distance from universal time is known of both, it is
taken into account; if it is known of one only, the moments cannot be compared. -/
def Moment.same (a b : Moment) : Bool :=
  match a.offset, b.offset with
  | none, none => a.reading == b.reading
  | some p, some q => a.reading - p * 1000000 == b.reading - q * 1000000
  | _, _ => false

/-- A span of time in full: days, and seconds within the day, as far as they are not zero. -/
def spanText (seconds : Int) : String :=
  let days := Int.fdiv seconds 86400
  let rest := Int.fmod seconds 86400
  let parts := (if days == 0 then [] else ["days=" ++ Numeral.decimal days]) ++
    (if rest == 0 then [] else ["seconds=" ++ Numeral.decimal rest])
  "datetime.timedelta(" ++ (if parts.isEmpty then "0" else String.intercalate ", " parts) ++ ")"

def CalendarError.message : CalendarError → String
  | .year n => "year " ++ Numeral.decimal n ++ " is out of range"
  | .month => "month must be in 1..12"
  | .day => "day is out of range for month"
  | .hour => "hour must be in 0..23"
  | .minute => "minute must be in 0..59"
  | .second => "second must be in 0..59"
  | .offset seconds =>
    "offset must be a timedelta strictly between -timedelta(hours=24) and " ++
      "timedelta(hours=24), not " ++ spanText seconds ++ "."

/-- A date as `year-month-day`. -/
def Date.plain (d : Date) : String :=
  Numeral.paddedDecimal 4 d.year ++ "-" ++ Numeral.paddedDecimal 2 d.month ++ "-" ++
    Numeral.paddedDecimal 2 d.day

def Date.full (d : Date) : String :=
  let numbers := [d.year, d.month, d.day].map fun n => Numeral.decimal (n : Nat)
  "datetime.date(" ++ String.intercalate ", " numbers ++ ")"

/-- The distance from universal time behind a plain moment. -/
def offsetText (seconds : Int) : String :=
  let n := seconds.natAbs
  (if seconds < 0 then "-" else "+") ++ Numeral.paddedDecimal 2 (n / 3600) ++ ":" ++
    Numeral.paddedDecimal 2 (n / 60 % 60) ++
    (if n % 60 == 0 then "" else ":" ++ Numeral.paddedDecimal 2 (n % 60))

/-- A moment as a date, a time and the distance from universal time. -/
def Moment.plain (m : Moment) : String :=
  m.date.plain ++ " " ++ Numeral.paddedDecimal 2 m.hour ++ ":" ++
    Numeral.paddedDecimal 2 m.minute ++
    ":" ++ Numeral.paddedDecimal 2 m.second ++
    (if m.microsecond == 0 then "" else "." ++ Numeral.paddedDecimal 6 m.microsecond) ++
    (m.offset.map offsetText).getD ""

/-- The numbers of a time of day without the zeros behind the minutes. -/
def Moment.timeNumbers (m : Moment) : List Nat :=
  if m.microsecond != 0 then [m.hour, m.minute, m.second, m.microsecond]
  else if m.second != 0 then [m.hour, m.minute, m.second]
  else [m.hour, m.minute]

def Moment.full (m : Moment) : String :=
  let numbers := [m.date.year, m.date.month, m.date.day] ++ m.timeNumbers
  let zone := match m.offset with
    | none => ""
    | some 0 => ", tzinfo=datetime.timezone.utc"
    | some seconds => ", tzinfo=datetime.timezone(" ++ spanText seconds ++ ")"
  "datetime.datetime(" ++ String.intercalate ", "
    (numbers.map fun n => Numeral.decimal (n : Nat)) ++ zone ++ ")"

end Chip8
