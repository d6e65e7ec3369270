import Backlog.Number.Decimal
import Backlog.Text.Blank
import Backlog.Json.Printer

/-!
# Pages

A page is a window of a list: how many rows it skips and how many it holds at most.

**Links.** From a page and the number of rows it found, `Links.ofPage` names the first, the last,
the previous and the next page. The last and the previous page lie whole pages away from this one;
what of a window would start before the list is cut off.
-/

namespace Backlog

structure Page where
  offset : Nat
  limit : Nat
deriving DecidableEq, Inhabited

/-- How many rows a page holds when nothing is said, and at most. -/
structure PagingConfig where
  defaultLimit : Nat := 20
  maxLimit : Nat := 100
deriving DecidableEq, Inhabited

namespace Page

/-- Reads a window from texts. What is no number, or a number that makes no sense, counts as not
given. -/
def read (offset limit : Option String) (config : PagingConfig) : Page :=
  let number (s : String) : Option Int := Decimal.readInt64? (Text.trim s)
  let offset := ((offset.bind number).filter (0 ≤ ·)).map Int.toNat
  let limit := ((limit.bind number).filter (0 < ·)).map Int.toNat
  { offset := offset.getD 0
    limit := match limit with
      | some n => min n config.maxLimit
      | none => config.defaultLimit }

def query (p : Page) : String :=
  "offset=" ++ toString p.offset ++ "&limit=" ++ toString p.limit

def toJson (p : Page) : Json := .obj [("offset", .int p.offset), ("limit", .int p.limit)]

/-- A window of at most `limit` rows that starts at `start`. Of a start before the list only the
rest of the window stays; where nothing stays, a whole page at the start. -/
def clip (start limit : Int) : Page :=
  if 0 ≤ start then ⟨start.toNat, limit.toNat⟩
  else if 0 < limit + start then ⟨0, (limit + start).toNat⟩
  else ⟨0, limit.toNat⟩

/-- The pages one can go to from a page. -/
structure Links where
  first : Page
  last : Page
  prev : Option Page
  next : Option Page
deriving DecidableEq

namespace Links

/-- The start that lies whole pages before an offset at or past the end. -/
def backFromEnd (offset limit total : Int) : Int :=
  offset - ((offset - total) / limit + 1) * limit

/-- The links of a page that found `found` rows of `total`. -/
def ofPage (p : Page) (found total : Nat) : Links :=
  let limit : Int := max p.limit 1
  let offset : Int := p.offset
  let total : Int := total
  { first := if 0 < offset ∧ offset % limit ≠ 0 then ⟨0, (offset % limit).toNat⟩
      else ⟨0, limit.toNat⟩
    last := clip
      (if offset < total then offset + (total - offset - 1) / limit * limit
        else backFromEnd offset limit total) limit
    prev := if 0 < offset ∧ 0 < total then
        some (clip (if offset ≤ total then offset - limit else backFromEnd offset limit total) limit)
      else none
    next := if offset + found < total then some ⟨(offset + found).toNat, limit.toNat⟩ else none }

def toJson (l : Links) : Json :=
  .obj ([("first", l.first.toJson), ("last", l.last.toJson)] ++
    (l.prev.map fun p => ("prev", p.toJson)).toList ++
    (l.next.map fun p => ("next", p.toJson)).toList)

end Links

end Page

end Backlog
