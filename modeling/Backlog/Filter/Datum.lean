import Backlog.Json.Printer

/-!
# Values in comparisons

What a predicate compares: nothing, a number or a text.

**Order.** Numbers are ordered by value and stand before all texts; texts are ordered by code
points. A comparison with nothing is neither true nor false.
-/

namespace Backlog

inductive Datum
  | null
  | int (n : Int)
  | real (x : Binary64)
  | text (s : String)
deriving DecidableEq, Inhabited

namespace Datum

def compareText (a b : String) : Ordering :=
  if a < b then .lt else if a = b then .eq else .gt

/-- The order of two values that are both there. -/
def compare : Datum → Datum → Option Ordering
  | null, _ | _, null => none
  | int a, int b => some (Ord.compare a b)
  | int a, real y => some (Binary64.compareInt a y)
  | real x, int b => some (Binary64.compareInt b x).swap
  | real x, real y => some (Binary64.compareValue x y)
  | text a, text b => some (compareText a b)
  | text _, _ => some .gt
  | _, text _ => some .lt

/-- An infinite number, as an integer that stands to every floating number as it does. -/
def infinite (negative : Bool) : Datum :=
  int (if negative then -↑(Nat.pow 2 1024) else ↑(Nat.pow 2 1024))

/-- The value of a field in a comparison: a truth value is one or zero, a text ends before its first
NUL, an integer beyond 64 bits is a floating number, and a container is its compact text. -/
def ofJson : Json → Datum
  | .null => null
  | .bool b => int (if b then 1 else 0)
  | .int n =>
    if Decimal.IsInt64 n then int n
    else match Binary64.ofInt? n with
      | some x => real x
      | none => null
  | .float x => real x
  | .str s => text (String.ofList (s.toList.takeWhile (·.toNat ≠ 0)))
  | .arr xs => text (Json.arr xs).text
  | .obj ms => text (Json.obj ms).text

end Datum

/-! ## Three truth values -/

inductive Truth
  | no
  | unknown
  | yes
deriving DecidableEq, Inhabited

namespace Truth

def ofBool (b : Bool) : Truth := if b then yes else no

def not : Truth → Truth
  | no => yes
  | unknown => unknown
  | yes => no

def and : Truth → Truth → Truth
  | no, _ | _, no => no
  | yes, yes => yes
  | _, _ => unknown

def or : Truth → Truth → Truth
  | yes, _ | _, yes => yes
  | no, no => no
  | _, _ => unknown

def all (ts : List Truth) : Truth := ts.foldr and yes

def any (ts : List Truth) : Truth := ts.foldr or no

end Truth

end Backlog
