import Backlog.Page
import Mathlib.Data.Nat.ModEq
import Mathlib.Tactic.Ring

/-!
# Where the links of a page lead

**Main statement (`leadFrom_ofPage`).** The first page covers what lies before the page and fills no
whole page. The last page holds the end of the list, whole pages away from the page. The previous
page ends where the page begins, and the next one begins where its rows end.

**Pages by their ends.** A page that is found by going back is fixed by the place where it ends
(`endingAt`). The last page ends less than a page behind the list (`lastStop`), also for a page that
begins past the end, and all that is said of it comes from there.
-/

namespace Backlog.Page

variable {p : Page} {width stop found total : Nat}

/-- How many rows a page counts for in its links. -/
def size (p : Page) : Nat := max p.limit 1

theorem size_pos (p : Page) : 0 < p.size := Nat.lt_of_lt_of_le Nat.one_pos (Nat.le_max_right _ _)

theorem size_eq (hlimit : 0 < p.limit) : p.size = p.limit := Nat.max_eq_left hlimit

theorem max_limit_one (p : Page) : max (p.limit : Int) 1 = p.size := by
  rw [size]
  omega

/-! ## Pages by their ends -/

/-- The page of a width that ends at a place. What of it would lie before the list is cut off. -/
def endingAt (width stop : Nat) : Page := ⟨stop - width, if stop = 0 then width else min width stop⟩

theorem clip_eq_endingAt (hwidth : 0 < width) {start : Int} (hstart : start + width = stop) :
    clip start width = endingAt width stop := by
  rw [clip, endingAt]
  by_cases hwithin : 0 ≤ start
  · rw [if_pos hwithin, if_neg (by omega)]
    congr 1 <;> omega
  · rw [if_neg hwithin]
    by_cases hrest : 0 < (width : Int) + start
    · rw [if_pos hrest, if_neg (by omega)]
      congr 1 <;> omega
    · rw [if_neg hrest, if_pos (by omega)]
      congr 1
      omega

/-- Where the last page ends that lies whole pages away from a page. -/
def lastStop (p : Page) (total : Nat) : Nat :=
  if p.offset < total then p.offset + ((total - p.offset - 1) / p.size + 1) * p.size
  else total + (p.offset - total) % p.size

theorem lastStop_of_lt (h : p.offset < total) :
    p.lastStop total = p.offset + ((total - p.offset - 1) / p.size + 1) * p.size := if_pos h

theorem lastStop_of_le (h : total ≤ p.offset) :
    p.lastStop total = total + (p.offset - total) % p.size := if_neg (Nat.not_lt.2 h)

/-- The last page ends with the list or less than a page behind it. -/
theorem lastStop_bounds (p : Page) (total : Nat) :
    total ≤ p.lastStop total ∧ p.lastStop total < total + p.size := by
  have hsize := p.size_pos
  by_cases hwithin : p.offset < total
  · have hsplit := Nat.div_add_mod (total - p.offset - 1) p.size
    have hrest := Nat.mod_lt (total - p.offset - 1) hsize
    rw [lastStop_of_lt hwithin, Nat.succ_mul, Nat.mul_comm]
    omega
  · have hrest := Nat.mod_lt (p.offset - total) hsize
    rw [lastStop_of_le (by omega)]
    omega

theorem lastStop_mod (p : Page) (total : Nat) : p.lastStop total ≡ p.offset [MOD p.size] := by
  by_cases hwithin : p.offset < total
  · rw [lastStop_of_lt hwithin, Nat.ModEq, Nat.add_mul_mod_self_right]
  · have hsum : total + (p.offset - total) = p.offset := by omega
    rw [lastStop_of_le (by omega), Nat.ModEq, Nat.add_mod_mod, hsum]

/-- Going back from past the end by whole pages leads to the last page. -/
theorem backFromEnd_eq (h : total ≤ p.offset) :
    Links.backFromEnd p.offset p.size total + p.size = p.lastStop total := by
  have hsplit := Int.mul_ediv_add_emod ((p.offset : Int) - total) p.size
  have hrest : (((p.offset - total) % p.size : Nat) : Int) =
      ((p.offset : Int) - total) % p.size := by
    rw [Int.natCast_emod, Int.ofNat_sub h]
  rw [lastStop_of_le h, Links.backFromEnd, Int.add_mul, Int.mul_comm, Int.one_mul, Int.natCast_add,
    hrest]
  omega

/-! ## The four links -/

theorem first_ofPage (p : Page) (found total : Nat) : (Links.ofPage p found total).first =
    ⟨0, if p.offset % p.size = 0 then p.size else p.offset % p.size⟩ := by
  have hrest : ((p.offset : Int) % p.size) = (p.offset % p.size : Nat) := (Int.natCast_emod _ _).symm
  simp only [Links.ofPage, max_limit_one, hrest]
  by_cases hwhole : p.offset % p.size = 0
  · rw [if_neg (by omega), if_pos hwhole, Int.toNat_natCast]
  · have hoffset : p.offset ≠ 0 := by
      intro hzero
      rw [hzero, Nat.zero_mod] at hwhole
      exact hwhole rfl
    rw [if_pos (by omega), if_neg hwhole, Int.toNat_natCast]

theorem last_ofPage (p : Page) (found total : Nat) :
    (Links.ofPage p found total).last = endingAt p.size (p.lastStop total) := by
  simp only [Links.ofPage, max_limit_one]
  apply clip_eq_endingAt p.size_pos
  by_cases hwithin : p.offset < total
  · have hahead : ((total : Int) - p.offset - 1) = (total - p.offset - 1 : Nat) := by omega
    rw [if_pos (by omega), lastStop_of_lt hwithin, hahead]
    push_cast
    ring
  · rw [if_neg (by omega), backFromEnd_eq (by omega)]

theorem prev_ofPage (p : Page) (found total : Nat) : (Links.ofPage p found total).prev =
    if 0 < p.offset ∧ 0 < total then
      some (endingAt p.size (if p.offset ≤ total then p.offset else p.lastStop total))
    else none := by
  simp only [Links.ofPage, max_limit_one, Int.natCast_pos]
  split
  next hprev =>
    congr 1
    apply clip_eq_endingAt p.size_pos
    by_cases hwithin : p.offset ≤ total
    · rw [if_pos (by omega), if_pos hwithin]
      omega
    · rw [if_neg (by omega), if_neg hwithin, backFromEnd_eq (by omega)]
  next => rfl

theorem next_ofPage (p : Page) (found total : Nat) : (Links.ofPage p found total).next =
    if p.offset + found < total then some ⟨p.offset + found, p.size⟩ else none := by
  simp only [Links.ofPage, max_limit_one, Int.toNat_natCast]
  by_cases hmore : p.offset + found < total
  · rw [if_pos hmore, if_pos (by omega)]
    congr 2
  · rw [if_neg hmore, if_neg (by omega)]

theorem prev_ofPage_eq_some {q : Page} : (Links.ofPage p found total).prev = some q ↔
    (0 < p.offset ∧ 0 < total) ∧
      q = endingAt p.size (if p.offset ≤ total then p.offset else p.lastStop total) := by
  rw [prev_ofPage, Option.ite_none_right_eq_some, Option.some.injEq, eq_comm (b := q)]

/-! ## All of them -/

/-- A page ends where it is said to, unless nothing of it is left. -/
theorem endingAt_ends (hstop : 0 < stop) :
    (endingAt width stop).offset + (endingAt width stop).limit = stop := by
  simp only [endingAt, if_neg (Nat.ne_of_gt hstop)]
  omega

theorem limit_endingAt_le : (endingAt width stop).limit ≤ width := by
  simp only [endingAt]
  split <;> omega

/-- A page that does not begin with the list is whole. -/
theorem endingAt_whole (hstop : 0 < stop) :
    (endingAt width stop).offset ≡ stop [MOD width] ∧ (endingAt width stop).limit = width ∨
      (endingAt width stop).offset = 0 := by
  simp only [endingAt, if_neg (Nat.ne_of_gt hstop)]
  by_cases hwhole : width ≤ stop
  · exact .inl ⟨(Nat.mod_eq_sub_mod hwhole).symm, Nat.min_eq_left hwhole⟩
  · exact .inr (Nat.sub_eq_zero_of_le (Nat.le_of_not_le hwhole))

/-- Where the links lead of a page that found so many rows of a total. -/
structure Links.LeadFrom (p : Page) (found total : Nat) (l : Links) : Prop where
  first_eq : l.first = ⟨0, if p.offset % p.size = 0 then p.size else p.offset % p.size⟩
  last_begins : 0 < total → l.last.offset < total
  last_ends : 0 < total → total ≤ l.last.offset + l.last.limit
  last_le : 0 < total → l.last.limit ≤ p.size
  last_whole : 0 < total →
    l.last.offset ≡ p.offset [MOD p.size] ∧ l.last.limit = p.size ∨ l.last.offset = 0
  prev_isSome : l.prev.isSome ↔ 0 < p.offset ∧ 0 < total
  prev_ends : ∀ q, l.prev = some q → p.offset ≤ total → q.offset + q.limit = p.offset
  prev_past : ∀ q, l.prev = some q → total ≤ p.offset → q = l.last
  next_eq : l.next = if p.offset + found < total then some ⟨p.offset + found, p.size⟩ else none

theorem leadFrom_ofPage (p : Page) (found total : Nat) :
    (Links.ofPage p found total).LeadFrom p found total := by
  obtain ⟨hlow, hhigh⟩ := p.lastStop_bounds total
  have hlast := last_ofPage p found total
  refine {
    first_eq := first_ofPage p found total
    last_begins := fun htotal => ?_
    last_ends := fun htotal => ?_
    last_le := fun _ => hlast ▸ limit_endingAt_le
    last_whole := fun htotal => ?_
    prev_isSome := ?_
    prev_ends := fun q hq hwithin => ?_
    prev_past := fun q hq hpast => ?_
    next_eq := next_ofPage p found total }
  · rw [hlast]
    show p.lastStop total - p.size < total
    omega
  · rw [hlast, endingAt_ends (by omega)]
    exact hlow
  · rw [hlast]
    exact (endingAt_whole (by omega)).imp_left fun hwhole =>
      ⟨hwhole.1.trans (p.lastStop_mod total), hwhole.2⟩
  · simp only [Option.isSome_iff_exists, prev_ofPage_eq_some, exists_and_left, exists_eq, and_true]
  · obtain ⟨hsome, rfl⟩ := prev_ofPage_eq_some.1 hq
    rw [if_pos hwithin, endingAt_ends hsome.1]
  · obtain ⟨-, rfl⟩ := prev_ofPage_eq_some.1 hq
    rw [hlast]
    split
    next hwithin =>
      -- The page begins with the end of the list, and the last page ends there.
      obtain rfl : total = p.offset := Nat.le_antisymm hpast hwithin
      rw [lastStop_of_le (Nat.le_refl _), Nat.sub_self, Nat.zero_mod, Nat.add_zero]
    next => rfl

end Backlog.Page
