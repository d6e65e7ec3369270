/-!
# Punycode

Reading a row of code points that is written in letters, digits and hyphens: the basic characters
come first, and the others follow as the distances between them.
-/

namespace Backlog.Url.Punycode

/-- The worth of a digit to base 36: letters first. -/
def digitValue? (c : Char) : Option Nat :=
  if c.isLower then some (c.toNat - 97)
  else if c.isUpper then some (c.toNat - 65)
  else if c.isDigit then some (c.toNat - 22)
  else none

/-- Divides a distance until it is small, counting the base along. -/
def adaptLoop : Nat → Nat → Nat → Nat
  | 0, k, delta => k + 36 * delta / (delta + 38)
  | n + 1, k, delta =>
    if 455 < delta then adaptLoop n (k + 36) (delta / 35) else k + 36 * delta / (delta + 38)

/-- The bias for the digits of the next distance. -/
def adapt (delta count : Nat) (first : Bool) : Nat :=
  let delta := if first then delta / 700 else delta / 2
  adaptLoop 64 0 (delta + delta / count)

/-- One distance with digits of growing weight. -/
def distance (bias : Nat) : List Char → Nat → Nat → Nat → Option (Nat × List Char)
  | [], _, _, _ => none
  | c :: rest, k, weight, i => do
    let digit ← digitValue? c
    let i := i + digit * weight
    if 4294967296 ≤ i then none
    else
      let t := if k ≤ bias then 1 else if bias + 26 ≤ k then 26 else k - bias
      if digit < t then some (i, rest) else distance bias rest (k + 36) (weight * (36 - t)) i

/-- The points behind the basic ones. Each takes at least one digit. -/
def insertions : Nat → List Char → Nat → Nat → Nat → List Nat → Option (List Nat)
  | _, [], _, _, _, out => some out
  | 0, _ :: _, _, _, _, _ => none
  | fuel + 1, cs, n, i, bias, out => do
    let (j, rest) ← distance bias cs 36 1 i
    let count := out.length + 1
    let n := n + j / count
    let at_ := j % count
    if 0x10ffff < n ∨ (0xd800 ≤ n ∧ n ≤ 0xdfff) then none
    else
      insertions fuel rest n (at_ + 1) (adapt (j - i) count (i = 0))
        (out.take at_ ++ n :: out.drop at_)

/-- The characters of a written row. -/
def decode? (cs : List Char) : Option (List Char) :=
  let tail := (cs.reverse.takeWhile (· ≠ '-')).reverse
  let basic := cs.take (cs.length - tail.length - 1)
  let basic := if cs.contains '-' then basic else []
  let tail := if cs.contains '-' then tail else cs
  (insertions tail.length tail 128 0 72 (basic.map Char.toNat)).map (·.map Char.ofNat)

end Backlog.Url.Punycode
