import Backlog.Number.Binary64

/-!
# Numbers with a fixed count of places

A number that is not negative, written with three digits after the point: the exact value rounded
to thousandths, a tie to the even one.
-/

namespace Backlog.Binary64

/-- A number of thousandths as whole part, point and three digits. -/
def thousandthsText (n : Nat) : String :=
  let rest := Nat.toDigits 10 (n % 1000)
  toString (n / 1000) ++ "." ++ String.ofList (List.replicate (3 - rest.length) '0' ++ rest)

def threePlaces (x : Binary64) : String :=
  thousandthsText (nearest (x.ratio.1 * 1000) x.ratio.2)

end Backlog.Binary64
