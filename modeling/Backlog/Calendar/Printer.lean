import Backlog.Calendar.Moment

/-!
# Text of moments

Date and time with a `T` between them. A year beyond four digits, or before the year 0, has a
sign.
-/

namespace Backlog.Moment

/-- A number with zeros before it up to a width. -/
def padded (width n : Nat) : List Char :=
  let digits := Nat.toDigits 10 n
  List.replicate (width - digits.length) '0' ++ digits

def yearChars (year : Int) : List Char :=
  if 0 ≤ year ∧ year ≤ 9999 then padded 4 year.toNat
  else (if year < 0 then '-' else '+') :: padded 4 year.natAbs

/-- Date and time up to the second. -/
def secondChars (t : Moment) : List Char :=
  let d := t.date
  yearChars d.year ++ '-' :: padded 2 d.month.toNat ++ '-' :: padded 2 d.day.toNat ++
    'T' :: padded 2 t.hour ++ ':' :: padded 2 t.minute ++ ':' :: padded 2 t.second

/-- The stored form of instants: always six digits of the second, and `Z`. -/
def microText (t : Moment) : String :=
  String.ofList (t.secondChars ++ '.' :: padded 6 (t.nanos % 1000000000 / 1000) ++ ['Z'])

/-- The fraction of the second in 0, 3, 6 or 9 digits, as few as hold it. -/
def fractionChars (nanos : Nat) : List Char :=
  if nanos = 0 then []
  else if nanos % 1000000 = 0 then '.' :: padded 3 (nanos / 1000000)
  else if nanos % 1000 = 0 then '.' :: padded 6 (nanos / 1000)
  else '.' :: padded 9 nanos

/-- Date and time with the digits the fraction needs, and a text for universal time. -/
def textWith (zone : String) (t : Moment) : String :=
  String.ofList (t.secondChars ++ fractionChars (t.nanos % 1000000000)) ++ zone

def text (t : Moment) : String := t.textWith "Z"

def offsetText (t : Moment) : String := t.textWith "+00:00"

end Backlog.Moment
