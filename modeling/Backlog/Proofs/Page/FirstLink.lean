import Backlog.Proofs.Page.Links
import Mathlib.Logic.Relation

/-!
# From the first page on

**Main statement (`reaches_offset_iff`).** Whoever goes to the first page of a page and from there
always to the next one comes to a page that begins where the first one was left for, exactly if that
offset is a multiple of the size of the first page.

**The gap** (`exists_page_not_reached`): a first page that covers less than a whole page hands its
size on to all pages after it, since a page knows no other. Pages of the rest of a division by a
size seldom come to the number that was divided.
-/

namespace Backlog.Page

variable {p q : Page} {total width : Nat}

/-- Whoever has read all that a page holds is led on to the other by its next link. -/
def LeadsOn (total : Nat) (p q : Page) : Prop :=
  (Links.ofPage p (min p.limit (total - p.offset)) total).next = some q

/-- Next links lead from one page to the other, each page being read in full. -/
def Reaches (total : Nat) : Page → Page → Prop := Relation.ReflTransGen (LeadsOn total)

theorem leadsOn_iff (hlimit : 0 < p.limit) :
    LeadsOn total p q ↔ p.offset + p.limit < total ∧ q = ⟨p.offset + p.limit, p.limit⟩ := by
  rw [LeadsOn, next_ofPage, size_eq hlimit, Option.ite_none_right_eq_some, Option.some.injEq,
    eq_comm (b := q)]
  -- A page that does not hold all of its rows is the last one.
  by_cases hfull : p.offset + p.limit < total
  · rw [Nat.min_eq_left (by omega)]
  · constructor
    · intro h
      omega
    · intro h
      exact absurd h.1 hfull

/-- **The pages from the start on** are those that begin at the multiples of their size. -/
theorem reaches_iff (hwidth : 0 < width) : Reaches total ⟨0, width⟩ q ↔
    q.limit = width ∧ width ∣ q.offset ∧ (q.offset = 0 ∨ q.offset < total) := by
  constructor
  · intro h
    induction h with
    | refl => exact ⟨rfl, Nat.dvd_zero width, .inl rfl⟩
    | tail _ hstep ih =>
      obtain ⟨hlimit, hdvd, -⟩ := ih
      obtain ⟨hmore, rfl⟩ := (leadsOn_iff (hlimit ▸ hwidth)).1 hstep
      exact ⟨hlimit, (Nat.dvd_add_right hdvd).2 (hlimit ▸ Nat.dvd_refl _), .inr hmore⟩
  · intro h
    obtain ⟨hlimit, ⟨k, hk⟩, hwithin⟩ := h
    -- By induction on the number of pages before it.
    induction k generalizing q with
    | zero =>
      obtain rfl : q = ⟨0, width⟩ := by rw [← hlimit, ← width.mul_zero, ← hk]
      exact .refl
    | succ k ih =>
      rw [Nat.mul_succ] at hk
      have hbefore : Reaches total ⟨0, width⟩ ⟨width * k, width⟩ :=
        ih rfl (.inr (by dsimp only; omega)) rfl
      refine hbefore.tail ((leadsOn_iff hwidth).2 ⟨by dsimp only; omega, ?_⟩)
      rw [← hk, ← hlimit]

theorem first_limit_pos (p : Page) (found total : Nat) :
    0 < (Links.ofPage p found total).first.limit := by
  rw [first_ofPage]
  dsimp only
  split
  next => exact p.size_pos
  next hrest => exact Nat.pos_of_ne_zero hrest

/-- The pages from the first one on begin at the multiples of its limit. -/
theorem exists_reaches_offset_iff (hwithin : p.offset < total) (found : Nat) :
    (∃ q, Reaches total (Links.ofPage p found total).first q ∧ q.offset = p.offset) ↔
      (Links.ofPage p found total).first.limit ∣ p.offset := by
  have hstart : (Links.ofPage p found total).first =
      ⟨0, (Links.ofPage p found total).first.limit⟩ := by rw [first_ofPage]
  rw [hstart]
  have hreaches {q : Page} := @reaches_iff q total _ (first_limit_pos p found total)
  constructor
  · intro h
    obtain ⟨q, hq, hoffset⟩ := h
    exact hoffset ▸ (hreaches.1 hq).2.1
  · intro hdvd
    exact ⟨⟨p.offset, _⟩, hreaches.2 ⟨rfl, hdvd, .inr hwithin⟩, rfl⟩

/-- **The first page leads back to a page** exactly if it is as long as a page, or what it covers
divides the offset. -/
theorem reaches_offset_iff (hwithin : p.offset < total) (found : Nat) :
    (∃ q, Reaches total (Links.ofPage p found total).first q ∧ q.offset = p.offset) ↔
      p.offset % p.size = 0 ∨ p.offset % p.size ∣ p.offset := by
  rw [exists_reaches_offset_iff hwithin, first_ofPage]
  dsimp only
  by_cases hwhole : p.offset % p.size = 0
  · rw [if_pos hwhole]
    exact iff_of_true (Nat.dvd_of_mod_eq_zero hwhole) (.inl hwhole)
  · rw [if_neg hwhole, or_iff_right hwhole]

/-- A page of eight rows from the thirteenth on, and its first page of four. -/
theorem reaches_offset_iff_twelve : 12 < 20 ∧
    (Links.ofPage ⟨12, 8⟩ 8 20).first = ⟨0, 4⟩ ∧
    ∃ q, Reaches 20 (Links.ofPage ⟨12, 8⟩ 8 20).first q ∧ q.offset = 12 :=
  ⟨by decide, by decide, (reaches_offset_iff (p := ⟨12, 8⟩) (by decide) 8).2 (.inr (by decide))⟩

/-- A page of three rows from the sixth on: its first page has two rows, and the pages after that
begin at two and at four. -/
theorem exists_page_not_reached : ¬ ∀ (p : Page) (found total : Nat), 1 ≤ p.limit →
    0 < p.offset → p.offset < total →
    ∃ q, Reaches total (Links.ofPage p found total).first q ∧ q.offset = p.offset := by
  intro h
  have hreached := h ⟨5, 3⟩ 1 6 (by decide) (by decide) (by decide)
  rw [exists_reaches_offset_iff (p := ⟨5, 3⟩) (by decide) 1] at hreached
  exact absurd hreached (by decide)

end Backlog.Page
