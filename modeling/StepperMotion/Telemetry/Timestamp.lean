/-!
# Points in time

A point in time is a number of seconds since the beginning of 1970, and nanoseconds. It is written
as a date and a time of day in universal time. The date comes from the proleptic Gregorian
calendar, whose cycle of 400 years has 146097 days; the year is taken to begin in March, so that
the leap day is the last one of it. Years that do not have four digits are written with a sign.
-/

namespace StepperMotion

/-- A point in time; a leap second has a thousand million nanoseconds or more. -/
structure Timestamp where
  seconds : Int
  nanos : Nat
deriving DecidableEq, Repr

structure Date where
  /-- The year; the one before the year 1 is the year 0. -/
  year : Int
  /-- The month, from 1. -/
  month : Nat
  day : Nat
deriving DecidableEq, Repr

namespace Date

/-- The date that lies the given number of days after the first of January 1970. -/
def ofDays (days : Int) : Date :=
  -- days since the first of March of the year 0
  let z := days + 719468
  let cycle := z / 146097
  let inCycle := (z % 146097).toNat
  let years := (inCycle - inCycle / 1460 + inCycle / 36524 - inCycle / 146096) / 365
  let inYear := inCycle - (365 * years + years / 4 - years / 100)
  let months := (5 * inYear + 2) / 153
  let month := if months < 10 then months + 3 else months - 9
  { year := cycle * 400 + years + (if month ≤ 2 then 1 else 0)
    month := month
    day := inYear - (153 * months + 2) / 5 + 1 }

end Date

namespace Timestamp

/-- A number with at least `width` digits. -/
def padded (width n : Nat) : String :=
  let s := toString n
  String.ofList (List.replicate (width - s.length) '0') ++ s

/-- A year: four digits if they suffice, and else with a sign. -/
def renderYear (y : Int) : String :=
  if 0 ≤ y ∧ y ≤ 9999 then padded 4 y.toNat
  else (if y < 0 then "-" else "+") ++ padded 4 y.natAbs

/-- The fraction of a second, in groups of three digits and as few of them as possible. -/
def renderFraction (nanos : Nat) : String :=
  if nanos = 0 then ""
  else if nanos % 1000000 = 0 then "." ++ padded 3 (nanos / 1000000)
  else if nanos % 1000 = 0 then "." ++ padded 6 (nanos / 1000)
  else "." ++ padded 9 nanos

def render (t : Timestamp) : String :=
  let date := Date.ofDays (t.seconds / 86400)
  let inDay := (t.seconds % 86400).toNat
  let second := inDay % 60 + t.nanos / 1000000000
  renderYear date.year ++ "-" ++ padded 2 date.month ++ "-" ++ padded 2 date.day ++ "T" ++
    padded 2 (inDay / 3600) ++ ":" ++ padded 2 (inDay / 60 % 60) ++ ":" ++ padded 2 second ++
    renderFraction (t.nanos % 1000000000) ++ "Z"

end Timestamp

end StepperMotion
