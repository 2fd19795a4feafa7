import TaxStamps.Python.Error

/-!
# Dates and times

An aware UTC `datetime` is its number of microseconds since 0001-01-01, the
first instant Python represents. The calendar is the proleptic Gregorian one;
the conversion from a day number follows `datetime._ord2ymd`.
-/

namespace TaxStamps

/-- A date of the proleptic Gregorian calendar. -/
structure Date where
  year : Nat
  month : Nat
  day : Nat
deriving DecidableEq, Repr

namespace Date

/-- `left <= right`: chronological order. -/
def le (left right : Date) : Bool :=
  decide (left.year < right.year) ||
    (decide (left.year = right.year) &&
      (decide (left.month < right.month) ||
        (decide (left.month = right.month) && decide (left.day ≤ right.day))))

/-- Dates are compared by year, month and day. -/
instance : LE Date := ⟨fun left right => left.le right = true⟩

/-- The order of dates is decided on their parts. -/
instance (left right : Date) : Decidable (left ≤ right) :=
  inferInstanceAs (Decidable (left.le right = true))

/-- Every fourth year is a leap year, of the centuries every fourth. -/
def isLeap (year : Nat) : Bool := year % 4 == 0 && (year % 100 != 0 || year % 400 == 0)

/-- Days before the given month of a year. -/
def daysBeforeMonth (year month : Nat) : Nat :=
  [0, 0, 31, 59, 90, 120, 151, 181, 212, 243, 273, 304, 334].getD month 0 +
    if 2 < month && isLeap year then 1 else 0

/-- The date of a day number, where day 0 is 0001-01-01. -/
def ofDayNumber (days : Nat) : Date :=
  let n400 := days / 146097
  let r400 := days % 146097
  let n100 := r400 / 36524
  let r100 := r400 % 36524
  let n4 := r100 / 1461
  let r4 := r100 % 1461
  let n1 := r4 / 365
  let dayOfYear := r4 % 365
  let year := n400 * 400 + n100 * 100 + n4 * 4 + n1 + 1
  if n1 = 4 || n100 = 4 then ⟨year - 1, 12, 31⟩
  else
    let estimate := (dayOfYear + 50) / 32
    let month := if dayOfYear < daysBeforeMonth year estimate then estimate - 1 else estimate
    ⟨year, month, dayOfYear - daysBeforeMonth year month + 1⟩

end Date

/-- The microseconds since the first day, in UTC. -/
abbrev Datetime := Int

namespace Datetime

/-- The microseconds of a day. -/
def microsPerDay : Int := 86400000000

/-- The first instant after the year 9999. -/
def limit : Int := 3652059 * microsPerDay

/-- The date of a time. -/
def date (time : Datetime) : Date := Date.ofDayNumber (time / microsPerDay).toNat

/-- The calendar year of a time. -/
def year (time : Datetime) : Nat := (date time).year

/-- `time + timedelta(days=days)`. -/
def addDays (time : Datetime) (days : Int) : Result Datetime :=
  let moved := time + days * microsPerDay
  if 0 ≤ moved && moved < limit then .ok moved else .error .overflowError

/-- `time - timedelta(hours=hours)`. -/
def subHours (time : Datetime) (hours : Int) : Result Datetime :=
  let moved := time - hours * 3600000000
  if 0 ≤ moved && moved < limit then .ok moved else .error .overflowError

/-- `time.strftime("%Y-%m-%dT%H:%M:%SZ")`. -/
def isoSeconds (time : Datetime) : PyStr :=
  let day := date time
  let seconds := ((time % microsPerDay) / 1000000).toNat
  PyStr.decimal day.year ++ py "-" ++ PyStr.zeroPad 2 day.month ++ py "-" ++
    PyStr.zeroPad 2 day.day ++ py "T" ++ PyStr.zeroPad 2 (seconds / 3600) ++ py ":" ++
    PyStr.zeroPad 2 (seconds / 60 % 60) ++ py ":" ++ PyStr.zeroPad 2 (seconds % 60) ++ py "Z"

/-- `time.strftime("%Y-%m-%dT%H:%M:%S.%fZ")`. -/
def isoMicros (time : Datetime) : PyStr :=
  let day := date time
  let seconds := ((time % microsPerDay) / 1000000).toNat
  PyStr.decimal day.year ++ py "-" ++ PyStr.zeroPad 2 day.month ++ py "-" ++
    PyStr.zeroPad 2 day.day ++ py "T" ++ PyStr.zeroPad 2 (seconds / 3600) ++ py ":" ++
    PyStr.zeroPad 2 (seconds / 60 % 60) ++ py ":" ++ PyStr.zeroPad 2 (seconds % 60) ++ py "." ++
    PyStr.zeroPad 6 (time % 1000000).toNat ++ py "Z"

/-- The text of a time can be stored. -/
theorem isoSeconds_storable (time : Datetime) : (isoSeconds time).all Code.storable = true := by
  simp only [isoSeconds, List.all_append, PyStr.decimal_storable, PyStr.zeroPad_storable,
    Bool.true_and]
  decide

example : date (739828 * microsPerDay) = ⟨2026, 8, 1⟩ := by decide

end Datetime

end TaxStamps
