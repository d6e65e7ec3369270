/-!
# Integers in decimal

Reading the decimal digits of an integer, with a sign and inside a range.
-/

namespace Backlog.Decimal

def digitValue (c : Char) : Nat := c.toNat - '0'.toNat

/-- The number that a row of decimal digits writes. -/
def ofDigits (digits : List Char) : Nat := digits.foldl (fun n c => 10 * n + digitValue c) 0

/-- A row of at least one decimal digit. -/
def readNat? (cs : List Char) : Option Nat :=
  if cs.isEmpty || !cs.all Char.isDigit then none else some (ofDigits cs)

/-- A decimal integer with at most one sign before it. -/
def readInt? : List Char → Option Int
  | '-' :: cs => (readNat? cs).map fun n => -(n : Int)
  | '+' :: cs => (readNat? cs).map fun n => (n : Int)
  | cs => (readNat? cs).map fun n => (n : Int)

/-- The integers of 64 bits with a sign. -/
def IsInt64 (n : Int) : Prop := -9223372036854775808 ≤ n ∧ n < 9223372036854775808

instance (n : Int) : Decidable (IsInt64 n) := by unfold IsInt64; infer_instance

/-- A decimal integer of 64 bits. -/
def readInt64? (s : String) : Option Int :=
  (readInt? s.toList).filter fun n => decide (IsInt64 n)

/-- A decimal natural number of 64 bits, with a plus sign or none. -/
def readNat64? (s : String) : Option Nat :=
  let digits := match s.toList with
    | '+' :: cs => readNat? cs
    | cs => readNat? cs
  digits.filter (· < 18446744073709551616)

end Backlog.Decimal
