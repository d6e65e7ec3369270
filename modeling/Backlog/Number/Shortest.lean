import Backlog.Number.Binary64

/-!
# Shortest decimal text of a number

The fewest digits that read back as the number: on the decimal grids of 1, 2, … digits the value
has two neighbours, and the first grid with a neighbour that rounds to the number gives the text.
Of two such neighbours the nearer is taken, of two equally near the even one.
-/

namespace Backlog.Binary64

/-! ## Digits -/

/-- The exponent of the first decimal digit of a positive quotient. -/
def decimalExponent (num den : Nat) : Int :=
  if num < den then
    let k := (Nat.toDigits 10 (den / num)).length
    if den ≤ num * Nat.pow 10 (k - 1) then -((k : Int) - 1) else -(k : Int)
  else ((Nat.toDigits 10 (num / den)).length : Int) - 1

/-- The magnitude `c · 10^s` reads back as the magnitude of the number. -/
def readsBack (x : Binary64) (c : Nat) (s : Int) : Bool :=
  match round? x.negative (c * Nat.pow 10 s.toNat) (Nat.pow 10 (-s).toNat) with
  | some y => decide (y = x)
  | none => false

/-- The neighbour of the number on the grid of `10^s` that reads back, if one does. -/
def onGrid? (x : Binary64) (s : Int) : Option Nat :=
  let num := x.ratio.1 * Nat.pow 10 (-s).toNat
  let den := x.ratio.2 * Nat.pow 10 s.toNat
  let low := num / den
  let twice := 2 * (num % den)
  match x.readsBack low s, x.readsBack (low + 1) s with
  | true, true =>
    if twice < den || (twice == den && low % 2 == 0) then some low else some (low + 1)
  | true, false => some low
  | false, true => some (low + 1)
  | false, false => none

/-- The shortest digits of a number other than zero, as an integer and a power of ten. -/
def shortest (x : Binary64) : Nat × Int :=
  let first := decimalExponent x.ratio.1 x.ratio.2
  let found := (List.range 17).findSome? fun (k : Nat) =>
    let s := first - k
    (x.onGrid? s).map fun c => (c, s)
  found.getD (x.significand * Nat.pow 5 (-x.exponent).toNat * Nat.pow 2 x.exponent.toNat,
    min x.exponent 0)

/-! ## Layout -/

/-- Drops the zeros at the end of a digit text. -/
def dropZeros (digits : List Char) : List Char :=
  (digits.reverse.dropWhile (· == '0')).reverse

/-- Writes digits with the point after the first `point` of them: positional when the first digit
stands at an exponent from -5 to 15, else with an exponent. -/
def layout (digits : List Char) (point : Int) : List Char :=
  if 0 < point ∧ point ≤ 16 then
    let whole := digits.take point.toNat
    let rest := digits.drop point.toNat
    whole ++ List.replicate (point.toNat - digits.length) '0' ++ '.' ::
      (if rest.isEmpty then ['0'] else rest)
  else if -5 < point ∧ point ≤ 0 then
    '0' :: '.' :: List.replicate (-point).toNat '0' ++ digits
  else
    let exponent := point - 1
    let mark := if exponent < 0 then ['e', '-'] else ['e', '+']
    let fraction := if digits.length ≤ 1 then [] else '.' :: digits.drop 1
    digits.take 1 ++ fraction ++ mark ++ Nat.toDigits 10 exponent.natAbs

/-- The text of a number: a sign, the shortest digits, and always a point or an exponent. -/
def chars (x : Binary64) : List Char :=
  let sign := if x.negative then ['-'] else []
  if x.isZero then sign ++ ['0', '.', '0']
  else
    let (c, s) := x.shortest
    let all := Nat.toDigits 10 c
    sign ++ layout (dropZeros all) (all.length + s)

def text (x : Binary64) : String := String.ofList x.chars

end Backlog.Binary64
