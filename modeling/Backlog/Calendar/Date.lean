/-!
# Dates

Dates of the Gregorian calendar, extended over all years, and their numbers: the days since the
first of January 1970.

**Numbering.** A year is counted from March, so that the leap day is its last. Years repeat every
400 years, which are 146097 days; within them the number of a day and its year, month and day
follow from each other by division alone.
-/

namespace Backlog

structure Date where
  year : Int
  month : Int
  day : Int
deriving DecidableEq, Inhabited

namespace Date

def isLeap (year : Int) : Bool := year % 4 = 0 && (year % 100 ≠ 0 || year % 400 = 0)

def monthLength (year month : Int) : Int :=
  if month = 2 then (if isLeap year then 29 else 28)
  else if month = 4 || month = 6 || month = 9 || month = 11 then 30
  else 31

/-- The years that the calendar covers. -/
def minYear : Int := -262143

def maxYear : Int := 262142

/-- A date that the calendar has. -/
def IsValid (d : Date) : Prop :=
  minYear ≤ d.year ∧ d.year ≤ maxYear ∧ 1 ≤ d.month ∧ d.month ≤ 12 ∧ 1 ≤ d.day ∧
    d.day ≤ monthLength d.year d.month

instance (d : Date) : Decidable d.IsValid := by unfold IsValid; infer_instance

/-- The days from the start of the 400 years to a day of a year that starts in March. -/
def dayOfCycle (yearOfCycle month day : Int) : Int :=
  365 * yearOfCycle + yearOfCycle / 4 - yearOfCycle / 100 +
    ((153 * (if month ≤ 2 then month + 9 else month - 3) + 2) / 5 + day - 1)

def dayNumber (d : Date) : Int :=
  let y := if d.month ≤ 2 then d.year - 1 else d.year
  146097 * (y / 400) + dayOfCycle (y % 400) d.month d.day - 719468

def ofDayNumber (n : Int) : Date :=
  let cycle := (n + 719468) / 146097
  let doc := (n + 719468) % 146097
  let yoc := (doc - doc / 1460 + doc / 36524 - doc / 146096) / 365
  let doy := doc - (365 * yoc + yoc / 4 - yoc / 100)
  let mp := (5 * doy + 2) / 153
  let day := doy - (153 * mp + 2) / 5 + 1
  let month := if mp < 10 then mp + 3 else mp - 9
  let y := 400 * cycle + yoc
  ⟨if month ≤ 2 then y + 1 else y, month, day⟩

end Date

end Backlog
