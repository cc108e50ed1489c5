import ExtensionProbe.Data

/-!
# Times of records

A record has its time in seconds since the start of 1970, as a whole number or as a double. The time is
shown to the microsecond, rounded to the nearest one, or to the second, rounded down.

* `carry_lt`: what is left of a time beyond its seconds is less than a second.
* `carry_total`: seconds and the rest are as long as before.
-/

namespace ExtensionProbe.Log

/-- Why a time is not shown. -/
inductive ClockError where
  /-- It is no number. -/
  | kind
  /-- It is the double that is no number. -/
  | notNumber
  /-- Its seconds do not fit 64 bits. -/
  | seconds
  /-- Its year, counted from 1900, does not fit 32 bits. -/
  | far
  /-- The calendar does not have its year. -/
  | year (given : Int)
deriving DecidableEq, Repr

/-- The wording of an error, as far as it has one of its own. -/
def ClockError.message : ClockError → String
  | .notNumber => "Invalid value NaN (not a number)"
  | .seconds => "timestamp out of range for platform time_t"
  | .year given => "year " ++ toString given ++ " is out of range"
  | _ => ""

/-- A day and a time of any year, in universal time. -/
structure Moment where
  year : Int
  month : Nat
  day : Nat
  hour : Nat
  minute : Nat
  second : Nat
deriving DecidableEq, Repr

namespace Moment

/-- The moment that lies a number of seconds after the start of 1970. -/
def ofSeconds (n : Int) : Except ClockError Moment :=
  let (year, month, day) := Date.civil (n.fdiv 86400)
  let rest := (n.fmod 86400).toNat
  if year - 1900 < -(Nat.pow 2 31 : Int) ∨ (Nat.pow 2 31 : Int) ≤ year - 1900 then .error .far
  else .ok ⟨year, month, day, rest / 3600, rest / 60 % 60, rest % 60⟩

/-- The year as a number of 32 bits. -/
def shownYear (m : Moment) : Int := m.year.bmod (Nat.pow 2 32)

/-- The moment in the calendar, with microseconds. -/
def toTimestamp (m : Moment) (microsecond : Nat) : Except ClockError Timestamp :=
  if m.shownYear < 1 ∨ 9999 < m.shownYear then .error (.year m.shownYear)
  else
    .ok ⟨⟨m.shownYear.toNat, m.month, m.day⟩, ⟨m.hour, m.minute, m.second, microsecond⟩, some 0⟩

/-- The moment in writing, as in `2024-01-02 03:04:05`; the year has as many digits as it needs. -/
def text (m : Moment) : Except ClockError String :=
  if m.shownYear < -(Nat.pow 2 31 : Int) + 1900 then .error .far
  else
    .ok (toString m.shownYear ++ "-" ++ Decimal.padded 2 m.month ++ "-" ++ Decimal.padded 2 m.day ++ " "
      ++ TimeOfDay.clockText ⟨m.hour, m.minute, m.second, 0⟩)

end Moment

namespace Clock

/-- The microseconds of a second. -/
def perSecond : Nat := 1000000

/-- Seconds that fit 64 bits. -/
def checkSeconds (n : Int) : Except ClockError Int :=
  if -(Nat.pow 2 63 : Int) ≤ n ∧ n < (Nat.pow 2 63 : Int) then .ok n else .error .seconds

/-- Seconds and the microseconds beyond them, which may be below none or up to a second: the rest that is
left once whole seconds are carried over. -/
def carry (seconds beyond : Int) : Int × Nat :=
  (seconds + beyond.fdiv perSecond, (beyond.fmod perSecond).toNat)

theorem carry_lt (seconds beyond : Int) : (carry seconds beyond).2 < perSecond := by
  have h1 := Int.fmod_lt_of_pos beyond (show (0 : Int) < perSecond by decide)
  have h2 := Int.fmod_nonneg_of_pos beyond (show (0 : Int) < perSecond by decide)
  simp only [carry]
  omega

theorem carry_total (seconds beyond : Int) :
    (carry seconds beyond).1 * perSecond + (carry seconds beyond).2 = seconds * perSecond + beyond := by
  have h2 := Int.fmod_nonneg_of_pos beyond (show (0 : Int) < perSecond by decide)
  have h := Int.mul_fdiv_add_fmod beyond perSecond
  simp only [carry, Int.toNat_of_nonneg h2, Int.add_mul]
  rw [Int.mul_comm] at h
  omega

/-- The microseconds of a double between two seconds; the product of the two is a double before it is
rounded. -/
def microseconds (beyond : Binary64) : Int :=
  match beyond.mul (Binary64.ofInt perSecond) with
  | .finite negative mantissa exponent =>
    let (num, den) := Binary64.magnitude mantissa exponent
    if negative then -(roundDiv num den : Int) else roundDiv num den
  | _ => 0

/-- A time as whole seconds and microseconds. -/
def split : Data → Except ClockError (Int × Nat)
  | .int n => (fun n => (n, 0)) <$> checkSeconds n
  | .bool b => .ok (if b then 1 else 0, 0)
  | .float x =>
    match x, x.truncate? with
    | .nan, _ => .error .notNumber
    | _, none => .error .seconds
    | x, some whole => do
      let (seconds, rest) := carry whole (microseconds (x.add (Binary64.ofInt (-whole))))
      pure (← checkSeconds seconds, rest)
  | _ => .error .kind

/-- The whole seconds that a time is past. -/
def floor : Data → Except ClockError Int
  | .int n => checkSeconds n
  | .bool b => .ok (if b then 1 else 0)
  | .float x =>
    match x, x.truncate? with
    | .nan, _ => .error .notNumber
    | _, none => .error .seconds
    | x, some whole =>
      checkSeconds (if x.isNegative && !x.isInt whole then whole - 1 else whole)
  | _ => .error .kind

/-- A time in the calendar, to the microsecond. -/
def timestamp (d : Data) : Except ClockError Timestamp := do
  let (seconds, rest) ← split d
  (← Moment.ofSeconds seconds).toTimestamp rest

/-- A time in writing, to the second. -/
def text (d : Data) : Except ClockError String := do
  (← Moment.ofSeconds (← floor d)).text

end Clock

end ExtensionProbe.Log
