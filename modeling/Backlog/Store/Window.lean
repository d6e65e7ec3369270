import Backlog.Store.Basic

/-!
# Windows of a list

Skipping rows and keeping only so many. Numbers beyond 64 bits with a sign are refused; a window
of no rows does not look at how many it skips.
-/

namespace Backlog.Store

def windowFault : Error := .internal "datatype mismatch"

def checkBound (n : Option Nat) : Except Error Unit :=
  match n with
  | none => .ok ()
  | some n => if n < 9223372036854775808 then .ok () else .error windowFault

/-- The rows of a list from `offset` on, at most `limit` of them. -/
def window {α : Type} (offset limit : Option Nat) (rows : List α) : Except Error (List α) := do
  checkBound limit
  if limit = some 0 then return []
  checkBound offset
  let kept := rows.drop (offset.getD 0)
  return match limit with
    | none => kept
    | some n => kept.take n

end Backlog.Store
