/-!
# Finite binary64 numbers

A finite number of the format is `± m · 2^e` in the one form that the format gives it: `m` below
`2^53`, and below `2^52` only at the least exponent. Zero has two signs.

**Rounding.** All arithmetic goes through `round?`: the exact quotient of two natural numbers to
the nearest number, a tie to the even significand, and `none` where the format has no finite
number so large.
-/

namespace Backlog

/-- The significands and exponents of the finite numbers, each number once. -/
def Binary64.Canonical (m : Nat) (e : Int) : Prop :=
  m < 9007199254740992 ∧ -1074 ≤ e ∧ e ≤ 971 ∧ (m < 4503599627370496 → e = -1074)

instance (m : Nat) (e : Int) : Decidable (Binary64.Canonical m e) := by
  unfold Binary64.Canonical; infer_instance

structure Binary64 where
  negative : Bool
  significand : Nat
  exponent : Int
  canonical : Binary64.Canonical significand exponent
deriving DecidableEq

namespace Binary64

def zero (negative : Bool) : Binary64 := ⟨negative, 0, -1074, by decide⟩

instance : Inhabited Binary64 := ⟨zero false⟩

/-- The greatest number of the format, or the least. -/
def greatest (negative : Bool) : Binary64 := ⟨negative, 9007199254740991, 971, by decide⟩

def neg (x : Binary64) : Binary64 := { x with negative := !x.negative }

def isZero (x : Binary64) : Bool := x.significand == 0

/-! ## Exact value -/

/-- The magnitude as a quotient of natural numbers. -/
def ratio (x : Binary64) : Nat × Nat :=
  (x.significand * Nat.pow 2 x.exponent.toNat, Nat.pow 2 (-x.exponent).toNat)

/-- The value in units of the least positive number, `2^-1074`. -/
def units (x : Binary64) : Int :=
  let magnitude : Int := ↑(x.significand * Nat.pow 2 (x.exponent + 1074).toNat)
  if x.negative then -magnitude else magnitude

/-- Equality of values: the two zeros are equal. -/
def same (x y : Binary64) : Bool := x.units == y.units

/-- The order of an integer and a number, by exact value. -/
def compareInt (n : Int) (x : Binary64) : Ordering := compare (n * ↑(Nat.pow 2 1074)) x.units

/-- The order of two numbers by value. -/
def compareValue (x y : Binary64) : Ordering := compare x.units y.units

/-! ## Rounding -/

/-- The natural number nearest to a quotient, a tie to the even one. -/
def nearest (num den : Nat) : Nat :=
  let q := num / den
  let twice := 2 * (num % den)
  if twice < den || (twice == den && q % 2 == 0) then q else q + 1

/-- The exponent at which the quotient has a significand of the full width, or the least. -/
def scaleOf (num den : Nat) : Int :=
  let e : Int := max (-1074) ((num.log2 : Int) - (den.log2 : Int) - 53)
  if num * Nat.pow 2 (-e).toNat / (den * Nat.pow 2 e.toNat) < 9007199254740992 then e else e + 1

/-- The number nearest to a quotient, if the format reaches that far. -/
def round? (negative : Bool) (num den : Nat) : Option Binary64 :=
  if num = 0 then some (zero negative)
  else
    let e := scaleOf num den
    let m := nearest (num * Nat.pow 2 (-e).toNat) (den * Nat.pow 2 e.toNat)
    let (m, e) := if m = 9007199254740992 then (4503599627370496, e + 1) else (m, e)
    if h : Canonical m e then some ⟨negative, m, e, h⟩ else none

def ofInt? (n : Int) : Option Binary64 := round? (n < 0) n.natAbs 1

def ofNat? (n : Nat) : Option Binary64 := round? false n 1

def mul? (x y : Binary64) : Option Binary64 :=
  round? (x.negative != y.negative) (x.ratio.1 * y.ratio.1) (x.ratio.2 * y.ratio.2)

/-- The quotient by a number that is not zero. -/
def div? (x y : Binary64) : Option Binary64 :=
  if y.isZero then none
  else round? (x.negative != y.negative) (x.ratio.1 * y.ratio.2) (x.ratio.2 * y.ratio.1)

/-- The sum of two numbers of one sign. -/
def addMagnitude? (x y : Binary64) : Option Binary64 :=
  round? x.negative (x.ratio.1 * y.ratio.2 + y.ratio.1 * x.ratio.2) (x.ratio.2 * y.ratio.2)

/-- The number nearest to a power of ten, for exponents up to 308. -/
def tenPower? (k : Nat) : Option Binary64 := round? false (Nat.pow 10 k) 1

end Binary64

end Backlog
