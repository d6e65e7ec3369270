import Backlog.Proofs.Page.Links

/-!
# Walks over the pages of a list

From page to page one goes by the links that each page gives, until there is none.

**Main statements.** Going to the next page reads what stands from the first page on, piece by piece
(`exists_walk_next`). Going to the previous page reads, from its end, what stands before the end of
the first page (`exists_walk_prev`). The last page ends no earlier than the list
(`last_covers`), so a walk back from it reads the whole list.

**Clipping.** A page that would start before the list is cut off where the page that was left
begins. So each step back ends where the step before it began, whatever the offsets are.
-/

namespace Backlog.Page

variable {α : Type} {xs : List α} {p q : Page} {gives : Page → List α → Nat → Prop}
  {link : Links → Option Page}

/-- What a page holds of a list. -/
def rows (p : Page) (xs : List α) : List α := (xs.drop p.offset).take p.limit

/-- Pages read one after the other, each found by the link of the one before, until there is none.
Reading a page gives what it holds and how many there are in all. -/
inductive Walk (gives : Page → List α → Nat → Prop) (link : Links → Option Page) :
    Page → List (List α) → Prop
  | stop {p : Page} {found : List α} {total : Nat} (holds : gives p found total)
    (last : link (.ofPage p found.length total) = none) : Walk gives link p [found]
  | go {p q : Page} {found : List α} {total : Nat} {pages : List (List α)}
    (holds : gives p found total) (more : link (.ofPage p found.length total) = some q)
    (rest : Walk gives link q pages) : Walk gives link p (found :: pages)

/-- Where a page holds one thing only, a walk reads one thing only. -/
theorem Walk.unique (hgives : ∀ p found total found' total', gives p found total →
    gives p found' total' → found' = found ∧ total' = total) {pages pages' : List (List α)}
    (h : Walk gives link p pages) (h' : Walk gives link p pages') : pages' = pages := by
  induction h generalizing pages' with
  | stop hfound hlast =>
    cases h' with
    | stop hfound' _ => rw [(hgives _ _ _ _ _ hfound hfound').1]
    | go hfound' hmore _ =>
      obtain ⟨rfl, rfl⟩ := hgives _ _ _ _ _ hfound hfound'
      rw [hlast] at hmore
      cases hmore
  | go hfound hmore _ ih =>
    cases h' with
    | stop hfound' hlast =>
      obtain ⟨rfl, rfl⟩ := hgives _ _ _ _ _ hfound hfound'
      rw [hlast] at hmore
      cases hmore
    | go hfound' hmore' hrest =>
      obtain ⟨rfl, rfl⟩ := hgives _ _ _ _ _ hfound hfound'
      rw [hmore] at hmore'
      obtain rfl := Option.some.inj hmore'
      rw [ih hrest]

/-- Reading a page that begins within the list and is not greater than a limit gives what the page
holds. -/
def Serves (gives : Page → List α → Nat → Prop) (xs : List α) (limit : Nat) : Prop :=
  ∀ p : Page, p.offset ≤ xs.length → p.limit ≤ limit → gives p (p.rows xs) xs.length

theorem Serves.mono {limit limit' : Nat} (h : Serves gives xs limit) (hle : limit' ≤ limit) :
    Serves gives xs limit' :=
  fun p hoffset hlimit => h p hoffset (Nat.le_trans hlimit hle)

/-! ## Forward -/

/-- What stands from a page on is what the page holds and what stands from its end on. -/
theorem rows_append_drop (p : Page) (xs : List α) :
    p.rows xs ++ xs.drop (p.offset + p.limit) = xs.drop p.offset := by
  rw [rows, ← List.drop_drop, List.take_append_drop]

/-- **Going forward reads what stands from the first page on.** -/
theorem exists_walk_next (hlimit : 0 < p.limit) (hserves : Serves gives xs p.limit)
    (hoffset : p.offset ≤ xs.length) :
    ∃ pages, Walk gives Links.next p pages ∧ pages.flatten = xs.drop p.offset := by
  -- By induction on how much of the list lies ahead.
  obtain ⟨ahead, hahead⟩ : ∃ ahead, xs.length - p.offset = ahead := ⟨_, rfl⟩
  induction ahead using Nat.strongRecOn generalizing p with
  | _ ahead ih =>
    have hread := hserves p hoffset (Nat.le_refl _)
    have hlength : (p.rows xs).length = min p.limit (xs.length - p.offset) := by
      rw [rows, List.length_take, List.length_drop]
    have hnext := next_ofPage p (p.rows xs).length xs.length
    rw [size_eq hlimit] at hnext
    by_cases hmore : p.offset + p.limit < xs.length
    · have hfull : (p.rows xs).length = p.limit := by omega
      rw [hfull, if_pos hmore] at hnext
      obtain ⟨pages, hwalk, htiles⟩ := ih (xs.length - (p.offset + p.limit)) (by omega)
        (p := ⟨p.offset + p.limit, p.limit⟩) hlimit hserves (Nat.le_of_lt hmore) rfl
      refine ⟨p.rows xs :: pages, .go hread (by rw [hfull]; exact hnext) hwalk, ?_⟩
      rw [List.flatten_cons, htiles, rows_append_drop]
    · rw [if_neg (by omega)] at hnext
      refine ⟨[p.rows xs], .stop hread hnext, ?_⟩
      have hend : xs.drop (p.offset + p.limit) = [] := List.drop_eq_nil_of_le (by omega)
      have htiles := rows_append_drop p xs
      rw [hend, List.append_nil] at htiles
      simpa using htiles

/-! ## Backward -/

/-- The page before one that begins within the list ends where that one begins. -/
theorem prev_of_within (hlimit : 0 < p.limit) (found : Nat) {total : Nat}
    (hoffset : p.offset ≤ total) : (Links.ofPage p found total).prev =
      if p.offset = 0 then none else some ⟨p.offset - p.limit, min p.limit p.offset⟩ := by
  rw [prev_ofPage, size_eq hlimit, if_pos hoffset]
  by_cases hzero : p.offset = 0
  · rw [if_pos hzero, if_neg (by omega)]
  · rw [if_neg hzero, if_pos (by omega), endingAt, if_neg hzero]

/-- What stands before the end of a page is what stands before the page and what the page holds. -/
theorem take_append_rows (p : Page) (xs : List α) :
    xs.take p.offset ++ p.rows xs = xs.take (p.offset + p.limit) := by
  rw [rows, List.take_add]

/-- **Going back reads what stands before the end of the first page**, the end of it first. -/
theorem exists_walk_prev (hlimit : 0 < p.limit) (hserves : Serves gives xs p.limit)
    (hoffset : p.offset ≤ xs.length) :
    ∃ pages, Walk gives Links.prev p pages ∧
      pages.reverse.flatten = xs.take (p.offset + p.limit) := by
  -- By induction on how much of the list lies behind.
  obtain ⟨behind, hbehind⟩ : ∃ behind, p.offset = behind := ⟨_, rfl⟩
  induction behind using Nat.strongRecOn generalizing p with
  | _ behind ih =>
    have hread := hserves p hoffset (Nat.le_refl _)
    have hprev := prev_of_within hlimit (p.rows xs).length hoffset
    by_cases hzero : p.offset = 0
    · rw [if_pos hzero] at hprev
      refine ⟨[p.rows xs], .stop hread hprev, ?_⟩
      have htiles := take_append_rows p xs
      rw [hzero, List.take_zero, List.nil_append] at htiles
      simpa [hzero] using htiles
    · rw [if_neg hzero] at hprev
      obtain ⟨pages, hwalk, htiles⟩ := ih (p.offset - p.limit) (by omega)
        (p := ⟨p.offset - p.limit, min p.limit p.offset⟩) (by simp only; omega)
        (hserves.mono (Nat.min_le_left _ _)) (by simp only; omega) rfl
      have hends : p.offset - p.limit + min p.limit p.offset = p.offset := by omega
      simp only [hends] at htiles
      refine ⟨p.rows xs :: pages, .go hread hprev hwalk, ?_⟩
      rw [List.reverse_cons, List.flatten_append, htiles, List.flatten_singleton, take_append_rows]

/-! ## The last page -/

/-- The last page holds the end of the list, whether or not the offset lies within the list. -/
theorem last_covers (p : Page) (hlimit : 0 < p.limit) (found total : Nat) :
    0 < (Links.ofPage p found total).last.limit ∧
      (Links.ofPage p found total).last.limit ≤ p.limit ∧
      (Links.ofPage p found total).last.offset ≤ total ∧
      total ≤ (Links.ofPage p found total).last.offset +
        (Links.ofPage p found total).last.limit := by
  obtain ⟨hlow, hhigh⟩ := p.lastStop_bounds total
  rw [last_ofPage, size_eq hlimit, endingAt]
  rw [size_eq hlimit] at hhigh
  split
  next hempty =>
    simp only
    omega
  next =>
    simp only
    omega

end Backlog.Page
