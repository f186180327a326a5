/-!
# Moments

A moment is a number of seconds since the beginning of 1970. It is written as a
date of the Gregorian calendar and a time of day, both of universal time.
-/

namespace Preflight

/-- A day of the Gregorian calendar. -/
structure Date where
  year : Nat
  month : Nat
  day : Nat
  deriving DecidableEq, Repr

/-- The date of a day that is counted from the beginning of 1970. -/
def Date.ofDay (day : Nat) : Date :=
  -- Years begin in March here, so that a leap day is the last day of its year,
  -- and the calendar repeats after four hundred of them.
  let shifted := day + 719468
  let cycle := shifted / 146097
  let dayOfCycle := shifted % 146097
  let yearOfCycle :=
    (dayOfCycle - dayOfCycle / 1460 + dayOfCycle / 36524 -
      dayOfCycle / 146096) / 365
  let dayOfYear :=
    dayOfCycle - (365 * yearOfCycle + yearOfCycle / 4 - yearOfCycle / 100)
  let monthFromMarch := (5 * dayOfYear + 2) / 153
  let inNextYear := 10 ≤ monthFromMarch
  { year := 400 * cycle + yearOfCycle + if inNextYear then 1 else 0
    month := if inNextYear then monthFromMarch - 9 else monthFromMarch + 3
    day := dayOfYear - (153 * monthFromMarch + 2) / 5 + 1 }

example :
    Date.ofDay 0 = ⟨1970, 1, 1⟩ ∧ Date.ofDay 11016 = ⟨2000, 2, 29⟩ ∧
      Date.ofDay 47540 = ⟨2100, 2, 28⟩ ∧ Date.ofDay 47541 = ⟨2100, 3, 1⟩ := by
  decide

/-- A moment before the year 10000. -/
structure Moment where
  /-- The seconds since the beginning of 1970. -/
  seconds : Nat
  hasShortYear : seconds < 253402300800 := by decide
  deriving DecidableEq, Repr

namespace Moment

/-- The beginning of 1970. -/
def first : Moment := { seconds := 0 }

def twoDigits (n : Nat) : String :=
  if n < 10 then "0" ++ toString n else toString n

/-- A moment as it is written in the log. -/
def text (moment : Moment) : String :=
  let date := Date.ofDay (moment.seconds / 86400)
  toString date.year ++ "-" ++ twoDigits date.month ++ "-" ++
    twoDigits date.day ++ "T" ++
    twoDigits (moment.seconds / 3600 % 24) ++ ":" ++
    twoDigits (moment.seconds / 60 % 60) ++ ":" ++
    twoDigits (moment.seconds % 60) ++ "Z"

example : text ⟨253402300799, by decide⟩ = "9999-12-31T23:59:59Z" := by
  decide

end Moment

end Preflight
