import Backlog.Calendar.Moment
import Backlog.Number.Decimal
import Backlog.Text.Blank

/-!
# Reading moments

**Strict form** (`readStrict`): every number has its full width, the parts are joined by single
characters, and an offset from universal time ends the text.

**Loose form** (`readLoose`): numbers may be shorter, a year may have a sign, and blanks may stand
around the parts.

In both, second 60 is a leap second.
-/

namespace Backlog.Moment

inductive ReadFault
  | tooShort
  | invalid
  | outOfRange
  | trailing
  | impossible
deriving DecidableEq

def ReadFault.message : ReadFault → String
  | tooShort => "premature end of input"
  | invalid => "input contains invalid characters"
  | outOfRange => "input is out of range"
  | trailing => "trailing input"
  | impossible => "no possible date and time matching input"

abbrev Step (α : Type) := List Char → Except ReadFault (α × List Char)

/-! ## Parts -/

def byteLength (cs : List Char) : Nat := (String.ofList cs).utf8ByteSize

/-- A number of exactly so many digits. -/
def fixedNumber (width : Nat) : Step Nat := fun cs =>
  let front := cs.takeWhile Char.isDigit |>.take width
  if front.length = width then .ok (Decimal.ofDigits front, cs.drop width)
  else if front.length = cs.length then .error .tooShort
  else .error .invalid

/-- A number of at least one digit and at most so many, if there is a bound. -/
def someNumber (most : Option Nat) : Step Nat := fun cs =>
  let run := cs.takeWhile Char.isDigit
  let front := match most with
    | some n => run.take n
    | none => run
  if cs.isEmpty then .error .tooShort
  else if front.isEmpty then .error .invalid
  else if 9223372036854775808 ≤ Decimal.ofDigits front then .error .outOfRange
  else .ok (Decimal.ofDigits front, cs.drop front.length)

/-- One certain character. -/
def literal (c : Char) : Step Unit
  | [] => .error .tooShort
  | d :: rest => if d = c then .ok ((), rest) else .error .invalid

def separator : Step Unit
  | [] => .error .tooShort
  | c :: rest => if c = 't' ∨ c = 'T' ∨ c = ' ' then .ok ((), rest) else .error .invalid

/-- The digits after a point as nanoseconds: nine count, more are passed over. -/
def fraction : Step Nat := fun cs =>
  match cs with
  | '.' :: rest =>
    let digits := rest.takeWhile Char.isDigit
    if rest.isEmpty then .error .tooShort
    else if digits.isEmpty then .error .invalid
    else
      let nine := (digits ++ List.replicate 9 '0').take 9
      .ok (Decimal.ofDigits nine, rest.drop digits.length)
  | cs => .ok (0, cs)

/-- Two digits of an offset; fewer than two bytes have ended. -/
def twoDigits (cs : List Char) : Except ReadFault (Nat × List Char) :=
  match cs with
  | a :: b :: rest =>
    if a.isDigit && b.isDigit then .ok (Decimal.ofDigits [a, b], rest) else .error .invalid
  | few => if byteLength few < 2 then .error .tooShort else .error .invalid

/-- The offset from universal time in seconds. `join` takes what stands between its hours and
minutes. -/
def offset (join : Step Unit) : Step Int := fun cs =>
  let signed (negative : Bool) (rest : List Char) : Except ReadFault (Int × List Char) := do
    let (hours, rest) ← twoDigits rest
    let (_, rest) ← join rest
    let (minutes, rest) ← twoDigits rest
    if 60 ≤ minutes then .error .outOfRange
    else
      let seconds : Int := 3600 * hours + 60 * minutes
      return (if negative then -seconds else seconds, rest)
  match cs with
  | [] => .error .tooShort
  | c :: rest =>
    if c = 'z' ∨ c = 'Z' then .ok (0, rest)
    else if c = '+' then signed false rest
    else if c = '-' ∨ c = '\u2212' then signed true rest
    else .error .invalid

/-- The offset of a day or more that no place has. -/
def checkOffset (seconds : Int) : Except ReadFault Unit :=
  if -86400 < seconds ∧ seconds < 86400 then .ok () else .error .outOfRange

/-! ## Strict form -/

def readStrict (s : String) : Except ReadFault Moment := do
  if s.utf8ByteSize < 19 then throw .tooShort
  let (year, cs) ← fixedNumber 4 s.toList
  let (_, cs) ← literal '-' cs
  let (month, cs) ← fixedNumber 2 cs
  let (_, cs) ← literal '-' cs
  let (day, cs) ← fixedNumber 2 cs
  let date : Date := ⟨year, month, day⟩
  if ¬ date.IsValid then throw .outOfRange
  let (_, cs) ← separator cs
  let (hour, cs) ← fixedNumber 2 cs
  let (_, cs) ← literal ':' cs
  let (minute, cs) ← fixedNumber 2 cs
  let (_, cs) ← literal ':' cs
  let (second, cs) ← fixedNumber 2 cs
  let (nanos, cs) ← fraction cs
  if 23 < hour ∨ 59 < minute ∨ 60 < second then throw .outOfRange
  let (seconds, cs) ← offset (literal ':') cs
  if ¬ cs.isEmpty then throw .trailing
  checkOffset seconds
  return ofLocal date hour minute second nanos seconds

/-! ## Loose form -/

def skipBlanks (cs : List Char) : List Char := cs.dropWhile Text.isBlank

/-- A number of one or two digits in a range, blanks before it. -/
def bounded (least most : Nat) : Step Nat := fun cs => do
  let (n, rest) ← someNumber (some 2) (skipBlanks cs)
  if least ≤ n ∧ n ≤ most then return (n, rest) else throw .outOfRange

/-- A year: any number of digits behind a sign, else at most four. -/
def looseYear : Step Int := fun cs => do
  let (year, rest) ← match skipBlanks cs with
    | '-' :: rest => do
      let (n, rest) ← someNumber none rest
      pure (-(n : Int), rest)
    | '+' :: rest => do
      let (n, rest) ← someNumber none rest
      pure ((n : Int), rest)
    | cs => do
      let (n, rest) ← someNumber (some 4) cs
      pure ((n : Int), rest)
  if -2147483648 ≤ year ∧ year < 2147483648 then return (year, rest) else throw .outOfRange

def looseLiteral (c : Char) : Step Unit := fun cs => literal c (skipBlanks cs)

/-- Any colons and blanks. -/
def colonsAndBlanks : Step Unit := fun cs =>
  .ok ((), cs.dropWhile fun c => c = ':' || Text.isBlank c)

def looseOffset : Step Int := fun cs =>
  match cs with
  | u :: t :: c :: rest =>
    if u.toLower = 'u' ∧ t.toLower = 't' ∧ c.toLower = 'c' then .ok (0, rest)
    else offset colonsAndBlanks cs
  | cs => offset colonsAndBlanks cs

def readLoose (s : String) : Except ReadFault Moment := do
  let (year, cs) ← looseYear s.toList
  let (_, cs) ← looseLiteral '-' cs
  let (month, cs) ← bounded 1 12 cs
  let (_, cs) ← looseLiteral '-' cs
  let (day, cs) ← bounded 1 31 cs
  let (_, cs) ← separator cs
  let (hour, cs) ← bounded 0 23 cs
  let (_, cs) ← looseLiteral ':' cs
  let (minute, cs) ← bounded 0 59 cs
  let (_, cs) ← looseLiteral ':' cs
  let (second, cs) ← bounded 0 60 cs
  let (nanos, cs) ← fraction cs
  let (seconds, cs) ← looseOffset (skipBlanks cs)
  if ¬ (skipBlanks cs).isEmpty then throw .trailing
  let date : Date := ⟨year, month, day⟩
  if ¬ date.IsValid then throw .outOfRange
  checkOffset seconds
  let t := ofLocal date hour minute second nanos seconds
  if t.InRange then return t else throw .impossible

end Backlog.Moment
