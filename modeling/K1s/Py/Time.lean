import Mathlib.Data.Int.Init

/-!
# Times

A `datetime` in UTC is kept as its microseconds since the epoch.
-/

namespace K1s
namespace Py

/-- The last microsecond of the year 9999. -/
def datetimeMax : Int := 253402300799999999

/-- `now + timedelta(seconds=seconds)` for a positive number of seconds, `none`
for the `OverflowError` of a time after the year 9999. -/
def addSeconds (now seconds : Int) : Option Int :=
  let later := now + 1000000 * seconds
  if later ≤ datetimeMax then some later else none

/-- The first microsecond of the year 1. -/
def datetimeMin : Int := -62135596800000000

/-- `now + timedelta(milliseconds=milliseconds)`, `none` for the `OverflowError` of a
time that is no `datetime`. -/
def addMilliseconds (now milliseconds : Int) : Option Int :=
  let later := now + 1000 * milliseconds
  if datetimeMin ≤ later ∧ later ≤ datetimeMax then some later else none

/-- `datetime.fromtimestamp(seconds, tz=UTC)`, `none` for an exception. -/
def fromTimestamp (seconds : Int) : Option Int :=
  if datetimeMin ≤ 1000000 * seconds ∧ 1000000 * seconds ≤ datetimeMax then
    some (1000000 * seconds)
  else none

/-- A number with leading zeros. -/
def padded (width : Nat) (number : Int) : String :=
  let digits := toString number
  String.ofList (List.replicate (width - digits.length) '0') ++ digits

/-- Year, month and day of a number of days since the epoch, in the Gregorian
calendar extended to all years. -/
def civilDate (days : Int) : Int × Int × Int :=
  let shifted := days + 719468
  let era := shifted / 146097
  let dayOfEra := shifted % 146097
  let yearOfEra :=
    (dayOfEra - dayOfEra / 1460 + dayOfEra / 36524 - dayOfEra / 146096) / 365
  let dayOfYear := dayOfEra - (365 * yearOfEra + yearOfEra / 4 - yearOfEra / 100)
  let shiftedMonth := (5 * dayOfYear + 2) / 153
  let day := dayOfYear - (153 * shiftedMonth + 2) / 5 + 1
  let month := if shiftedMonth < 10 then shiftedMonth + 3 else shiftedMonth - 9
  let year := yearOfEra + era * 400 + if month ≤ 2 then 1 else 0
  (year, month, day)

/-- `isoformat()` of a time in UTC. -/
def isoformat (time : Int) : String :=
  let seconds := time / 1000000
  let micros := time % 1000000
  let (year, month, day) := civilDate (seconds / 86400)
  let ofDay := seconds % 86400
  padded 4 year ++ "-" ++ padded 2 month ++ "-" ++ padded 2 day ++ "T" ++
    padded 2 (ofDay / 3600) ++ ":" ++ padded 2 (ofDay / 60 % 60) ++ ":" ++
    padded 2 (ofDay % 60) ++
    (if micros = 0 then "" else "." ++ padded 6 micros) ++ "+00:00"

example : isoformat 951827696000001 = "2000-02-29T12:34:56.000001+00:00" := by
  decide +kernel

end Py
end K1s
