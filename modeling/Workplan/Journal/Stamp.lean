/-
# `Workplan.Journal.Stamp` — times and names for runs

The time of an event is written in universal time with a second as its unit.  A run is named by
the low 48 bits of the time at which it began, in nanoseconds.
-/

namespace Workplan.Journal

/-- The year, month and day of a day counted from the first of January 1970.  Years are counted
from March, so that a leap day is the last day of its year. -/
def civilDate (day : Nat) : Nat × Nat × Nat :=
  let shifted := day + 719468
  let era := shifted / 146097
  let dayOfEra := shifted % 146097
  let yearOfEra := (dayOfEra - dayOfEra / 1460 + dayOfEra / 36524 - dayOfEra / 146096) / 365
  let dayOfYear := dayOfEra - (365 * yearOfEra + yearOfEra / 4 - yearOfEra / 100)
  let fifth := (5 * dayOfYear + 2) / 153
  let month := if fifth < 10 then fifth + 3 else fifth - 9
  let year := yearOfEra + era * 400 + if month ≤ 2 then 1 else 0
  (year, month, dayOfYear - (153 * fifth + 2) / 5 + 1)

/-- A number with zeros in front. -/
def padded (width n : Nat) : String :=
  let digits := Nat.toDigits 10 n
  String.ofList (List.replicate (width - digits.length) '0' ++ digits)

/-- The time a number of seconds after the beginning of 1970. -/
def timestamp (seconds : Nat) : String :=
  let (year, month, day) := civilDate (seconds / 86400)
  let rest := seconds % 86400
  padded 4 year ++ "-" ++ padded 2 month ++ "-" ++ padded 2 day ++ "T" ++
    padded 2 (rest / 3600) ++ ":" ++ padded 2 (rest / 60 % 60) ++ ":" ++ padded 2 (rest % 60) ++ "Z"

example : timestamp 0 = "1970-01-01T00:00:00Z" := by decide +kernel
example : timestamp 951782399 = "2000-02-28T23:59:59Z" := by decide +kernel
example : timestamp 951782400 = "2000-02-29T00:00:00Z" := by decide +kernel

/-- The name of a run that began at a time. -/
def runName (nanoseconds : Nat) : String :=
  let digits := Nat.toDigits 16 (nanoseconds % 0x1000000000000)
  "r-" ++ String.ofList (List.replicate (12 - digits.length) '0' ++ digits)

end Workplan.Journal
