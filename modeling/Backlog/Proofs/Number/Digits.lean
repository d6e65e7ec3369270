import Backlog.Number.Decimal
import Mathlib.Algebra.Group.Nat.Defs

/-!
# Rows of decimal digits

A row of digits is taken whole from the front of a text that does not go on with a digit
(`IsDigits.takeWhile_append`), and what a number writes in decimal is read as that number
(`Decimal.ofDigits_toDigits`).
-/

namespace Backlog

/-- A row of decimal digits. -/
def IsDigits (cs : List Char) : Prop := ∀ c ∈ cs, c.isDigit = true

/-- What follows a row of digits does not go on with one. -/
def EndsDigits (rest : List Char) : Prop := ∀ c ∈ rest.head?, c.isDigit = false

namespace IsDigits

variable {cs ds rest : List Char}

theorem toDigits (n : Nat) : IsDigits (Nat.toDigits 10 n) := fun _ h =>
  Nat.isDigit_of_mem_toDigits (by decide) (by decide) h

theorem append (h : IsDigits cs) (h' : IsDigits ds) : IsDigits (cs ++ ds) := fun c hc =>
  (List.mem_append.1 hc).elim (h c) (h' c)

theorem zeros (n : Nat) : IsDigits (List.replicate n '0') := fun c hc => by
  rw [(List.mem_replicate.1 hc).2]
  rfl

theorem takeWhile_append (h : IsDigits cs) (hr : EndsDigits rest) :
    (cs ++ rest).takeWhile Char.isDigit = cs := by
  rw [List.takeWhile_append_of_pos h]
  cases rest with
  | nil => simp
  | cons c rest => simp [hr c rfl]

theorem dropWhile_append (h : IsDigits cs) (hr : EndsDigits rest) :
    (cs ++ rest).dropWhile Char.isDigit = rest := by
  rw [List.dropWhile_append_of_pos h]
  cases rest with
  | nil => simp
  | cons c rest => simp [hr c rfl]

theorem takeWhile (cs : List Char) : IsDigits (cs.takeWhile Char.isDigit) :=
  List.all_eq_true.1 List.all_takeWhile

theorem take (h : IsDigits cs) (n : Nat) : IsDigits (cs.take n) := fun c hc =>
  h c (List.mem_of_mem_take hc)

end IsDigits

namespace Decimal

theorem ofDigits_eq (cs : List Char) : ofDigits cs = Nat.ofDigitChars 10 cs 0 := rfl

theorem ofDigits_toDigits (n : Nat) : ofDigits (Nat.toDigits 10 n) = n :=
  Nat.ofDigitChars_ten_toDigits

theorem ofDigits_append (cs ds : List Char) :
    ofDigits (cs ++ ds) = 10 ^ ds.length * ofDigits cs + ofDigits ds := by
  rw [ofDigits_eq, Nat.ofDigitChars_append, Nat.ofDigitChars_eq_ofDigitChars_zero]
  rfl

theorem ofDigits_zeros (n : Nat) : ofDigits (List.replicate n '0') = 0 := by
  rw [ofDigits_eq, Nat.ofDigitChars_replicate_zero, Nat.mul_zero]

theorem digitValue_lt {c : Char} (h : c.isDigit = true) : digitValue c < 10 := by
  have := Char.isDigit_iff_toNat.1 h
  simp only [Char.reduceToNat] at this
  simp only [digitValue, Char.reduceToNat]
  omega

theorem ofDigits_lt {cs : List Char} (h : IsDigits cs) : ofDigits cs < 10 ^ cs.length := by
  induction cs with
  | nil => decide
  | cons c cs ih =>
    have hc := digitValue_lt (h c List.mem_cons_self)
    have hcs := ih fun d hd => h d (List.mem_cons_of_mem c hd)
    have hsplit : ofDigits (c :: cs) = 10 ^ cs.length * ofDigits [c] + ofDigits cs :=
      ofDigits_append [c] cs
    have hone : ofDigits [c] = digitValue c := by simp [ofDigits]
    rw [hsplit, hone, List.length_cons, Nat.pow_succ]
    calc 10 ^ cs.length * digitValue c + ofDigits cs
        < 10 ^ cs.length * digitValue c + 10 ^ cs.length := by omega
      _ = 10 ^ cs.length * (digitValue c + 1) := by rw [Nat.mul_add, Nat.mul_one]
      _ ≤ 10 ^ cs.length * 10 := Nat.mul_le_mul_left _ (by omega)

theorem readNat?_toDigits (n : Nat) : readNat? (Nat.toDigits 10 n) = some n := by
  have hdigits : (Nat.toDigits 10 n).all Char.isDigit = true :=
    List.all_eq_true.2 (IsDigits.toDigits n)
  rw [readNat?, hdigits, ofDigits_toDigits]
  simp [Nat.toDigits_ne_nil]

theorem readInt?_toDigits (n : Nat) : readInt? (Nat.toDigits 10 n) = some (n : Int) := by
  have hfirst := readNat?_toDigits n
  have hdigits := IsDigits.toDigits n
  rw [readInt?.eq_def]
  split
  next cs hcs => exact absurd (hdigits '-' (hcs ▸ List.mem_cons_self)) (by decide)
  next cs hcs => exact absurd (hdigits '+' (hcs ▸ List.mem_cons_self)) (by decide)
  next =>
    rw [hfirst]
    rfl

/-- A number of 64 bits is read from its digits. -/
theorem readInt64?_toDigits {n : Nat} (h : n < 9223372036854775808) :
    readInt64? (String.ofList (Nat.toDigits 10 n)) = some (n : Int) := by
  have hfits : IsInt64 n := by unfold IsInt64; omega
  rw [readInt64?, String.toList_ofList, readInt?_toDigits, Option.filter_some,
    if_pos (by simpa using hfits)]

end Decimal

end Backlog
