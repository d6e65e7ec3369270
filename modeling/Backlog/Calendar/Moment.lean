import Backlog.Calendar.Date

/-!
# Moments

A moment of universal time: seconds since the start of 1970, and the nanoseconds into the second.
During a leap second the nanoseconds run on past a thousand million.

**Microseconds** are what is stored. Finer digits are dropped, and a leap second counts as the
second that follows it.
-/

namespace Backlog

structure Moment where
  seconds : Int
  nanos : Nat
deriving DecidableEq, Inhabited

namespace Moment

/-- The first and the last second that the calendar covers. -/
def minSeconds : Int := 86400 * Date.dayNumber ⟨Date.minYear, 1, 1⟩

def maxSeconds : Int := 86400 * Date.dayNumber ⟨Date.maxYear, 12, 31⟩ + 86399

theorem minSeconds_eq : minSeconds = -8334601228800 := by decide

theorem maxSeconds_eq : maxSeconds = 8210266876799 := by decide

def InRange (t : Moment) : Prop := minSeconds ≤ t.seconds ∧ t.seconds ≤ maxSeconds

instance (t : Moment) : Decidable t.InRange := by unfold InRange; infer_instance

def micros (t : Moment) : Int := t.seconds * 1000000 + (t.nanos / 1000 : Nat)

/-- The moment of a count of microseconds, where the calendar reaches it. -/
def ofMicros? (us : Int) : Option Moment :=
  let t : Moment := ⟨us / 1000000, (us % 1000000).toNat * 1000⟩
  if t.InRange then some t else none

/-! ## Date and time of day -/

def date (t : Moment) : Date := Date.ofDayNumber (t.seconds / 86400)

def hour (t : Moment) : Nat := (t.seconds % 86400).toNat / 3600

def minute (t : Moment) : Nat := (t.seconds % 86400).toNat / 60 % 60

/-- The second of the minute, 60 in a leap second. -/
def second (t : Moment) : Nat :=
  (t.seconds % 86400).toNat % 60 + t.nanos / 1000000000

/-- A date and a time of day at a place so many seconds ahead of universal time. -/
def ofLocal (d : Date) (hour minute second nanos : Nat) (offset : Int) : Moment :=
  let clock : Int := 3600 * hour + 60 * minute + (if second = 60 then 59 else second)
  ⟨86400 * d.dayNumber + clock - offset, if second = 60 then 1000000000 + nanos else nanos⟩

end Moment

end Backlog
