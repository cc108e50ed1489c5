import ExtensionProbe.Number.Decimal

/-!
# Dates and times

Days of the civil calendar from the year 1 to the year 9999, times of day in microseconds, and the
years, months and days of a count of days since 1970.

* `valid_of_ofParts`: parts that are accepted are a day of the calendar.
-/

namespace ExtensionProbe

/-- A day of the calendar. -/
structure Date where
  year : Nat
  month : Nat
  day : Nat
deriving DecidableEq, Repr

/-- A time of day. -/
structure TimeOfDay where
  hour : Nat
  minute : Nat
  second : Nat
  microsecond : Nat := 0
deriving DecidableEq, Repr

/-- A day and a time, with the distance from universal time in minutes if it is known. -/
structure Timestamp where
  date : Date
  time : TimeOfDay
  offset : Option Int := none
deriving DecidableEq, Repr

/-- Why numbers are no date or time. -/
inductive CalendarError where
  | year (given : Nat)
  | month
  | day
  | hour
  | minute
  | second
  | offset (minutes : Int)
deriving DecidableEq, Repr

/-- A distance from universal time in days and seconds, the seconds not negative. -/
def CalendarError.offsetParts (minutes : Int) : String :=
  let days := minutes.fdiv 1440
  let seconds := (minutes.fmod 1440) * 60
  let parts := (if days = 0 then [] else ["days=" ++ toString days])
    ++ (if seconds = 0 then [] else ["seconds=" ++ toString seconds])
  "datetime.timedelta(" ++ (if parts.isEmpty then "0" else ", ".intercalate parts) ++ ")"

/-- The wording of a calendar error. -/
def CalendarError.message : CalendarError → String
  | .year given => "year " ++ toString given ++ " is out of range"
  | .month => "month must be in 1..12"
  | .day => "day is out of range for month"
  | .hour => "hour must be in 0..23"
  | .minute => "minute must be in 0..59"
  | .second => "second must be in 0..59"
  | .offset minutes =>
    "offset must be a timedelta strictly between -timedelta(hours=24) and timedelta(hours=24), not "
      ++ offsetParts minutes ++ "."

namespace Date

/-- Whether a year has a 29th of February. -/
def isLeap (year : Nat) : Bool :=
  year % 4 = 0 && (year % 100 ≠ 0 || year % 400 = 0)

/-- The days of a month. -/
def daysIn (year month : Nat) : Nat :=
  if month = 2 then (if isLeap year then 29 else 28)
  else if month = 4 || month = 6 || month = 9 || month = 11 then 30
  else 31

/-- A day of the calendar that numbers name. -/
def ofParts (year month day : Nat) : Except CalendarError Date :=
  if year < 1 || 9999 < year then .error (.year year)
  else if month < 1 || 12 < month then .error .month
  else if day < 1 || daysIn year month < day then .error .day
  else .ok ⟨year, month, day⟩

theorem valid_of_ofParts {year month day : Nat} {d : Date} (h : ofParts year month day = .ok d) :
    1 ≤ d.month ∧ d.month ≤ 12 ∧ 1 ≤ d.day ∧ d.day ≤ daysIn d.year d.month := by
  unfold ofParts at h
  split at h
  · cases h
  · split at h
    · cases h
    · split at h
      · cases h
      · cases h; simp_all; omega

/-- The year, the month and the day that lie a number of days after the first of January 1970; years go
on without end in both ways. -/
def civil (days : Int) : Int × Nat × Nat :=
  let z := days + 719468
  let era := z.fdiv 146097
  let doe := (z.fmod 146097).toNat
  let yoe := (doe - doe / 1460 + doe / 36524 - doe / 146096) / 365
  let doy := doe - (365 * yoe + yoe / 4 - yoe / 100)
  let mp := (5 * doy + 2) / 153
  let day := doy - (153 * mp + 2) / 5 + 1
  let month := if mp < 10 then mp + 3 else mp - 9
  ((yoe : Int) + era * 400 + (if month ≤ 2 then 1 else 0), month, day)

/-- A day in writing, as in `2024-01-02`. -/
def text (d : Date) : String :=
  Decimal.padded 4 d.year ++ "-" ++ Decimal.padded 2 d.month ++ "-" ++ Decimal.padded 2 d.day

end Date

namespace TimeOfDay

/-- A time that numbers name. -/
def ofParts (hour minute second microsecond : Nat) : Except CalendarError TimeOfDay :=
  if 23 < hour then .error .hour
  else if 59 < minute then .error .minute
  else if 59 < second then .error .second
  else .ok ⟨hour, minute, second, microsecond⟩

/-- Hours, minutes and seconds in writing, as in `03:04:05`. -/
def clockText (t : TimeOfDay) : String :=
  Decimal.padded 2 t.hour ++ ":" ++ Decimal.padded 2 t.minute ++ ":" ++ Decimal.padded 2 t.second

/-- A time in writing; a fraction that is zero is left out. -/
def text (t : TimeOfDay) : String :=
  t.clockText ++ (if t.microsecond = 0 then "" else "." ++ Decimal.padded 6 t.microsecond)

end TimeOfDay

namespace Timestamp

/-- A distance from universal time in writing, as in `+01:30`. -/
def offsetText (minutes : Int) : String :=
  let n := minutes.natAbs
  (if minutes < 0 then "-" else "+") ++ Decimal.padded 2 (n / 60) ++ ":" ++ Decimal.padded 2 (n % 60)

/-- A day and a time in writing, with a separator between them. -/
def textWith (separator : String) (t : Timestamp) : String :=
  t.date.text ++ separator ++ t.time.text ++ ((t.offset.map offsetText).getD "")

/-- A distance from universal time that is less than a day. -/
def checkOffset (minutes : Int) : Except CalendarError Int :=
  if minutes.natAbs < 1440 then .ok minutes else .error (.offset minutes)

/-- Microseconds since the start of the calendar, in the time of the place itself. -/
def localMicroseconds (t : Timestamp) : Int :=
  let y : Int := (t.date.year : Int) - (if t.date.month ≤ 2 then 1 else 0)
  let era := y.fdiv 400
  let yoe := y.fmod 400
  let mp : Int := ((t.date.month + 9) % 12 : Nat)
  let doy := (153 * mp + 2).fdiv 5 + t.date.day - 1
  let doe := yoe * 365 + yoe.fdiv 4 - yoe.fdiv 100 + doy
  let days := era * 146097 + doe
  ((days * 24 + t.time.hour) * 60 + t.time.minute) * 60000000 + t.time.second * 1000000
    + t.time.microsecond

/-- Whether two timestamps are the same instant. One whose distance from universal time is unknown is
never the same as one whose distance is known. -/
def sameInstant (a b : Timestamp) : Bool :=
  match a.offset, b.offset with
  | none, none => a.localMicroseconds == b.localMicroseconds
  | some m, some n =>
    a.localMicroseconds - m * 60000000 == b.localMicroseconds - n * 60000000
  | _, _ => false

end Timestamp

end ExtensionProbe
