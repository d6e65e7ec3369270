import Backlog.Number.Binary64
import Mathlib.Algebra.Group.Nat.Defs

/-!
# Integers as floating numbers

**Main statement (`ofInt?_eq_rounded`).** Every integer of up to 64 bits has a nearest floating
number. The scale of an integer is that of its leading digit (`scaleOf_one`), so its significand has
the full width, and rounding carries into one more digit at most.
-/

namespace Backlog.Binary64

variable {num a b k : Nat}

/-- The nearest floating number of an integer, or zero where the format does not reach so far. -/
def rounded (n : Int) : Binary64 := (ofInt? n).getD (zero false)

theorem nearest_bounds (num den : Nat) :
    num / den ≤ nearest num den ∧ nearest num den ≤ num / den + 1 := by
  simp only [nearest]
  split <;> omega

/-- A number that is shifted and cut off has as many digits as its leading one says. -/
theorem shifted_bounds (hnum : num ≠ 0) (h : num.log2 + a = k + b) :
    2 ^ k ≤ num * 2 ^ a / 2 ^ b ∧ num * 2 ^ a / 2 ^ b < 2 ^ (k + 1) := by
  constructor
  · rw [Nat.le_div_iff_mul_le (Nat.two_pow_pos b), ← Nat.pow_add, ← h, Nat.pow_add]
    exact Nat.mul_le_mul_right _ (Nat.log2_self_le hnum)
  · have hexponent : k + 1 + b = num.log2 + 1 + a := by omega
    rw [Nat.div_lt_iff_lt_mul (Nat.two_pow_pos b), ← Nat.pow_add, hexponent, Nat.pow_add]
    exact Nat.mul_lt_mul_of_pos_right Nat.lt_log2_self (Nat.two_pow_pos a)

theorem scaleOf_one (hnum : num ≠ 0) : scaleOf num 1 = (num.log2 : Int) - 52 := by
  have hlog : Nat.log2 1 = 0 := by decide
  have hstart : max (-1074) ((num.log2 : Int) - (0 : Nat) - 53) = (num.log2 : Int) - 53 := by omega
  have hdigits := shifted_bounds (a := (-((num.log2 : Int) - 53)).toNat)
    (b := ((num.log2 : Int) - 53).toNat) (k := 53) hnum (by omega)
  simp only [scaleOf, hlog, hstart, Nat.pow_eq, Nat.one_mul]
  rw [if_neg (by omega)]
  omega

/-- Rounding an integer whose leading digit is within the format's reach gives a number. -/
theorem round?_one_isSome (negative : Bool) (hnum : num.log2 < 1023) :
    (round? negative num 1).isSome := by
  rw [round?]
  by_cases hzero : num = 0
  · rw [if_pos hzero]
    rfl
  rw [if_neg hzero]
  have hdigits := shifted_bounds (a := (-((num.log2 : Int) - 52)).toNat)
    (b := ((num.log2 : Int) - 52).toNat) (k := 52) hzero (by omega)
  have hnearest := nearest_bounds (num * 2 ^ (-((num.log2 : Int) - 52)).toNat)
    (2 ^ ((num.log2 : Int) - 52).toNat)
  have hcanonical (m : Nat) (hlow : 4503599627370496 ≤ m) (hhigh : m ≤ 9007199254740992) :
      Canonical
        (if m = 9007199254740992 then (4503599627370496, (num.log2 : Int) - 52 + 1)
          else (m, (num.log2 : Int) - 52)).1
        (if m = 9007199254740992 then (4503599627370496, (num.log2 : Int) - 52 + 1)
          else (m, (num.log2 : Int) - 52)).2 := by
    split
    next => refine ⟨?_, ?_, ?_, ?_⟩ <;> dsimp only <;> omega
    next => refine ⟨?_, ?_, ?_, ?_⟩ <;> dsimp only <;> omega
  simp only [scaleOf_one hzero, Nat.pow_eq, Nat.one_mul]
  rw [dif_pos (hcanonical _ (by omega) (by omega))]
  rfl

theorem ofInt?_eq_rounded {n : Int} (hlow : -9223372036854775808 ≤ n)
    (hhigh : n < 18446744073709551616) : ofInt? n = some (rounded n) := by
  have hlog : n.natAbs.log2 < 64 := by
    by_cases hzero : n.natAbs = 0
    · rw [hzero]
      decide
    · rw [Nat.log2_lt hzero]
      omega
  obtain ⟨x, hx⟩ := Option.isSome_iff_exists.1
    (round?_one_isSome (n < 0) (Nat.lt_of_lt_of_le hlog (by decide)))
  have hround : ofInt? n = some x := hx
  rw [rounded, hround]
  rfl

end Backlog.Binary64
