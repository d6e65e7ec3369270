import Backlog.Number.Decimal
import Backlog.Number.Shortest

/-!
# Numbers with 64 bits of significand

The store reads and prints floating numbers by way of these. A product is rounded to 64 bits, and
exponents have no bounds.

**Reading.** Of a decimal text some nineteen digits count, and a power of ten. The digits are
multiplied by the power in steps of a hundred, of ten and of one place, and each step rounds. So
most texts, but not all, become the floating number that is nearest to them, and what is greater
than all of these becomes infinite.

**Printing** is in fifteen digits, which do not tell all floating numbers apart.
-/

namespace Backlog

/-- The number `significand · 2^exponent`. -/
structure Extended where
  significand : Nat
  exponent : Int

namespace Extended

/-! ## Arithmetic -/

/-- The nearest number with 64 bits of significand, a tie to the even one. -/
def rounded (m : Nat) (e : Int) : Extended :=
  let spare := m.log2 - 63
  ⟨Binary64.nearest m (Nat.pow 2 spare), e + spare⟩

def mul (x y : Extended) : Extended :=
  rounded (x.significand * y.significand) (x.exponent + y.exponent)

def tenPower (k : Nat) : Extended := rounded (Nat.pow 10 k) 0

/-- One divided by a power of ten. -/
def tenthPower (k : Nat) : Extended :=
  let places := (Nat.pow 10 k).log2 + 64
  ⟨Binary64.nearest (Nat.pow 2 places) (Nat.pow 10 k), -places⟩

/-- The value as a quotient of natural numbers. -/
def ratio (x : Extended) : Nat × Nat :=
  (x.significand * Nat.pow 2 x.exponent.toNat, Nat.pow 2 (-x.exponent).toNat)

def less (x y : Extended) : Bool := x.ratio.1 * y.ratio.2 < y.ratio.1 * x.ratio.2

def floor (x : Extended) : Nat := x.ratio.1 / x.ratio.2

def ofBinary (x : Binary64) : Extended := ⟨x.significand, x.exponent⟩

/-- The floating number nearest to a magnitude that is not greater than all of them. -/
def toBinary? (negative : Bool) (x : Extended) : Option Binary64 :=
  if less (ofBinary (.greatest false)) x then none
  else Binary64.round? negative x.ratio.1 x.ratio.2

/-! ## Reading -/

/-- A significand that takes no more digits. -/
def isFull (m : Nat) : Bool := 1844674407370955160 ≤ m

/-- One more digit of a significand and a power of ten, before the point or behind it. -/
def takeDigit (behind : Bool) : Nat × Int → Char → Nat × Int
  | (m, e), c =>
    if isFull m then (m, if behind then e else e + 1)
    else (10 * m + Decimal.digitValue c, if behind then e - 1 else e)

/-- The digits of an exponent, which ends at ten thousand. -/
def exponentOf (digits : List Char) : Nat :=
  digits.foldl (fun n c => if n < 10000 then 10 * n + Decimal.digitValue c else 10000) 0

/-- The significand and the power of ten of a decimal text. -/
def decimal (cs : List Char) : Nat × Int :=
  let whole := (cs.takeWhile Char.isDigit).foldl (takeDigit false) (0, 0)
  let ((m, e), cs) := match cs.dropWhile Char.isDigit with
    | '.' :: cs =>
      ((cs.takeWhile Char.isDigit).foldl (takeDigit true) whole, cs.dropWhile Char.isDigit)
    | cs => (whole, cs)
  match cs with
  | _ :: '-' :: cs => (m, e - exponentOf cs)
  | _ :: '+' :: cs => (m, e + exponentOf cs)
  | _ :: cs => (m, e + exponentOf cs)
  | [] => (m, e)

/-- Takes a power of ten into a significand as far as it fits; what is left of the power. -/
def raise : Nat → Nat → Nat × Nat
  | m, 0 => (m, 0)
  | m, n + 1 => if m < 1844674407370955161 then raise (10 * m) n else (m, n + 1)

/-- Takes zeros off the end of a significand for a negative power; what is left of the power. -/
def lower : Nat → Nat → Nat × Nat
  | m, 0 => (m, 0)
  | m, n + 1 => if m % 10 = 0 then lower (m / 10) n else (m, n + 1)

def times (power : Extended) : Nat → Extended → Extended
  | 0, x => x
  | n + 1, x => times power n (x.mul power)

/-- Moves a number by decimal places, given the power for so many places. -/
def moved (power : Nat → Extended) (places : Nat) (x : Extended) : Extended :=
  times (power 1) (places % 10)
    (times (power 10) (places % 100 / 10) (times (power 100) (places / 100) x))

/-- A decimal text that has been read. -/
def ofDecimal (m : Nat) (e : Int) : Extended :=
  if m = 0 then ⟨0, 0⟩
  else if 0 ≤ e then
    let (m, places) := raise m e.toNat
    moved tenPower places ⟨m, 0⟩
  else
    let (m, places) := lower m (-e).toNat
    moved tenthPower places ⟨m, 0⟩

/-- The number that a decimal text without a sign is read as. -/
def read (cs : List Char) : Extended := ofDecimal (decimal cs).1 (decimal cs).2

/-! ## Printing -/

/-- Multiplies by a power as long as that is wanted; how often it was. Twelve times are enough for
every floating number. -/
def timesWhile (wanted : Extended → Bool) (power : Extended) : Nat → Extended → Extended × Nat
  | 0, x => (x, 0)
  | n + 1, x =>
    if wanted x then
      let (y, k) := timesWhile wanted power n (x.mul power)
      (y, k + 1)
    else (x, 0)

/-- A number but zero as an integer of at least seventeen digits and a power of ten. -/
def integral (x : Extended) : Nat × Int :=
  if x.less (tenPower 19) then
    let (x, hundreds) := timesWhile (less · (tenthPower 97)) (tenPower 100) 12 x
    let (x, tens) := timesWhile (less · (tenPower 7)) (tenPower 10) 12 x
    let (x, ones) := timesWhile (less · (tenPower 17)) (tenPower 1) 12 x
    (x.floor, -(100 * hundreds + 10 * tens + ones : Nat))
  else
    let (x, hundreds) := timesWhile (fun x => !x.less (tenPower 119)) (tenthPower 100) 12 x
    let (x, tens) := timesWhile (fun x => !x.less (tenPower 29)) (tenthPower 10) 12 x
    let (x, ones) := timesWhile (fun x => !x.less (tenPower 19)) (tenthPower 1) 12 x
    (x.floor, (100 * hundreds + 10 * tens + ones : Nat))

/-- The first fifteen digits of an integer and a power of ten, a half up. -/
def shortened (n : Nat) (e : Int) : Nat × Int :=
  match (Nat.toDigits 10 n).length - 15 with
  | 0 => (n, e)
  | spare + 1 => ((n + 5 * Nat.pow 10 spare) / Nat.pow 10 (spare + 1), e + (spare + 1 : Nat))

/-- Writes digits with the point after the first `point` of them: positional when the first digit
stands at an exponent from -4 to 14, else with an exponent of at least two digits. A digit stands
on either side of the point. -/
def layout (digits : List Char) (point : Int) : List Char :=
  if 0 < point ∧ point ≤ 15 then
    let rest := digits.drop point.toNat
    digits.take point.toNat ++ List.replicate (point.toNat - digits.length) '0' ++ '.' ::
      (if rest.isEmpty then ['0'] else rest)
  else if -4 < point ∧ point ≤ 0 then
    '0' :: '.' :: List.replicate (-point).toNat '0' ++ digits
  else
    let exponent := point - 1
    let places := Nat.toDigits 10 exponent.natAbs
    let rest := digits.drop 1
    digits.take 1 ++ '.' :: (if rest.isEmpty then ['0'] else rest) ++
      'e' :: (if exponent < 0 then '-' else '+') :: List.replicate (2 - places.length) '0' ++ places

end Extended

/-- The text of a floating number in fifteen digits. -/
def Binary64.roundedChars (x : Binary64) : List Char :=
  if x.isZero then ['0', '.', '0']
  else
    let (n, e) := (Extended.ofBinary x).integral
    let (n, e) := Extended.shortened n e
    let digits := Nat.toDigits 10 n
    (if x.negative then ['-'] else []) ++
      Extended.layout (Binary64.dropZeros digits) (digits.length + e)

end Backlog
