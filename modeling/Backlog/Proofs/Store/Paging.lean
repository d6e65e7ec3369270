import Backlog.Proofs.Page.Walk
import Backlog.Proofs.Store.Lists

/-!
# Items read page by page

**Main statement (`walks_iff_inRange`).** A list that does not change can be read page by page,
forward from its start or back from the last page that any page of it names, and either way nothing
is lost and nothing read twice. This needs page sizes that are numbers of 64 bits with a sign.

**The gap** (`exists_page_size_refused`): page sizes are numbers of 64 bits without a sign. Links
are right for all of them, but pages of the greater half are refused.
-/

namespace Backlog.Store

open Page (Links Serves Walk)

variable {s : Store} {f : Filter} {p : Page} {ws found : List WorkItem} {n total limit : Nat}

/-- Reading a page of a list gives these items of so many in all. -/
def GivesPage (f : Filter) (s : Store) (p : Page) (found : List WorkItem) (total : Nat) : Prop :=
  (listItems f (some p.offset) (some p.limit)).runOn s = (.ok (found, total), s)

theorem givesPage_unique (p : Page) (found : List WorkItem) (total : Nat)
    (found' : List WorkItem) (total' : Nat) (h : GivesPage f s p found total)
    (h' : GivesPage f s p found' total') : found' = found ∧ total' = total := by
  rw [GivesPage, h] at h'
  cases h'
  exact ⟨rfl, rfl⟩

theorem limit_lt_of_givesPage (h : GivesPage f s p found total) :
    p.limit < 9223372036854775808 := by
  obtain ⟨-, _, _, _, -, -, -, hlimit, -⟩ := listItems_runOn_eq_ok.1 h
  exact hlimit _ rfl

/-- The pages of a list are windows of it. -/
theorem givesPage_rows (hlist : (listItems f none none).runOn s = (.ok (ws, n), s))
    (hlimit : p.limit < 9223372036854775808) (hoffset : p.offset < 9223372036854775808) :
    GivesPage f s p (p.rows ws) n := by
  obtain ⟨-, q, params, rows, hcompiled, hselected, rfl, -, -, hshown⟩ :=
    listItems_runOn_eq_ok.1 hlist
  rw [cut_none] at hshown
  refine listItems_runOn_eq_ok.2 ⟨rfl, q, params, rows, hcompiled, hselected, rfl, ?_, .inr ?_, ?_⟩
  · simpa [InRange] using hlimit
  · simpa [InRange] using hoffset
  · exact List.forall₂_take _ (List.forall₂_drop _ hshown)

theorem length_of_listItems (hlist : (listItems f none none).runOn s = (.ok (ws, n), s)) :
    ws.length = n := by
  obtain ⟨-, _, _, rows, -, -, rfl, -, -, hshown⟩ := listItems_runOn_eq_ok.1 hlist
  rw [cut_none] at hshown
  exact hshown.length_eq.symm

theorem serves_of_listItems (hlist : (listItems f none none).runOn s = (.ok (ws, n), s))
    (hn : n < 9223372036854775808) (hlimit : limit < 9223372036854775808) :
    Serves (GivesPage f s) ws limit := by
  intro p hoffset hle
  have hlength := length_of_listItems hlist
  rw [hlength] at hoffset ⊢
  exact givesPage_rows hlist (by omega) (by omega)

/-- A walk begins with a page that is read. -/
theorem limit_lt_of_walk {link : Links → Option Page} {pages : List (List WorkItem)}
    (h : Walk (GivesPage f s) link p pages) : p.limit < 9223372036854775808 := by
  cases h with
  | stop holds => exact limit_lt_of_givesPage holds
  | go holds => exact limit_lt_of_givesPage holds

/-- **Pages tile a list.** Reading from the start to each next page ends exactly if the page size is
in range, and so does reading back from the last page that a page names. Either way the pages are
the whole list. -/
theorem walks_iff_inRange (hlist : (listItems f none none).runOn s = (.ok (ws, n), s))
    (hn : n < 9223372036854775808) (hlimit : 1 ≤ limit) :
    ((∃ pages, Walk (GivesPage f s) Links.next ⟨0, limit⟩ pages) ↔ limit < 9223372036854775808) ∧
    (∀ pages, Walk (GivesPage f s) Links.next ⟨0, limit⟩ pages → pages.flatten = ws) ∧
    ∀ offset found, ∃ last, (Links.ofPage ⟨offset, limit⟩ found n).last = last ∧
      last.limit ≤ limit ∧
      ((∃ pages, Walk (GivesPage f s) Links.prev last pages) ↔
        last.limit < 9223372036854775808) ∧
      ∀ pages, Walk (GivesPage f s) Links.prev last pages → pages.reverse.flatten = ws := by
  have hnext (hfit : limit < 9223372036854775808) :
      ∃ pages, Walk (GivesPage f s) Links.next ⟨0, limit⟩ pages ∧ pages.flatten = ws :=
    Page.exists_walk_next (p := ⟨0, limit⟩) hlimit (serves_of_listItems hlist hn hfit)
      (Nat.zero_le _)
  refine ⟨⟨fun h => ?_, fun hfit => ?_⟩, fun pages h => ?_, fun offset found => ⟨_, rfl, ?_⟩⟩
  · obtain ⟨pages, hwalk⟩ := h
    exact limit_lt_of_walk hwalk
  · obtain ⟨pages, hwalk, -⟩ := hnext hfit
    exact ⟨pages, hwalk⟩
  · obtain ⟨pages', hwalk, htiles⟩ := hnext (limit_lt_of_walk h)
    rwa [hwalk.unique givesPage_unique h]
  · obtain ⟨hpos, hle, hoffset, hend⟩ := Page.last_covers ⟨offset, limit⟩ hlimit found n
    generalize (Links.ofPage ⟨offset, limit⟩ found n).last = last at hpos hle hoffset hend ⊢
    have hlength := length_of_listItems hlist
    rw [← hlength] at hoffset hend
    have hprev (hfit : last.limit < 9223372036854775808) :
        ∃ pages, Walk (GivesPage f s) Links.prev last pages ∧ pages.reverse.flatten = ws := by
      obtain ⟨pages, hwalk, htiles⟩ :=
        Page.exists_walk_prev hpos (serves_of_listItems hlist hn hfit) hoffset
      exact ⟨pages, hwalk, by rw [htiles, List.take_of_length_le hend]⟩
    refine ⟨hle, ⟨fun h => ?_, fun hfit => ?_⟩, fun pages h => ?_⟩
    · obtain ⟨pages, hwalk⟩ := h
      exact limit_lt_of_walk hwalk
    · obtain ⟨pages, hwalk, -⟩ := hprev hfit
      exact ⟨pages, hwalk⟩
    · obtain ⟨pages', hwalk, htiles⟩ := hprev (limit_lt_of_walk h)
      rwa [hwalk.unique givesPage_unique h]

/-- The list of the mixed items, whatever it shows. -/
theorem exists_mixedList : ∃ ws, (listItems mixedFilter none none).runOn (run mixedRun empty).2 =
    (.ok (ws, 3), (run mixedRun empty).2) := by
  have hlist : succeeds (listItems mixedFilter none none) (run mixedRun empty).2 = true ∧
      ((listItems mixedFilter none none).runOn (run mixedRun empty).2).1.toOption.map Prod.snd =
        some 3 := by decide +kernel
  obtain ⟨⟨ws, n⟩, hfound⟩ := (ReadOnly.succeeds_iff (readOnly_listItems _ _ _)).1 hlist.1
  have htotal := hlist.2
  rw [hfound] at htotal
  obtain rfl : n = 3 := Option.some.inj htotal
  exact ⟨ws, hfound⟩

/-- Pages of two items each, forward and from an offset past the end back. -/
theorem walks_iff_inRange_mixedRun : ∃ ws pages back,
    (listItems mixedFilter none none).runOn (run mixedRun empty).2 =
      (.ok (ws, 3), (run mixedRun empty).2) ∧
    Walk (GivesPage mixedFilter (run mixedRun empty).2) Links.next ⟨0, 2⟩ pages ∧
    pages.flatten = ws ∧
    Walk (GivesPage mixedFilter (run mixedRun empty).2) Links.prev ⟨2, 2⟩ back ∧
    back.reverse.flatten = ws := by
  obtain ⟨ws, hlist⟩ := exists_mixedList
  obtain ⟨hforward, hread, hback⟩ := walks_iff_inRange hlist (by decide) (show 1 ≤ 2 by decide)
  obtain ⟨last, rfl, -, hprev, hreadBack⟩ := hback 6 0
  obtain ⟨pages, hpages⟩ := hforward.2 (by decide)
  obtain ⟨back, hbackward⟩ := hprev.2 (by decide)
  exact ⟨ws, pages, back, hlist, hpages, hread pages hpages, hbackward, hreadBack back hbackward⟩

/-- Not every list can be read in pages of every size. -/
theorem exists_page_size_refused : ¬ ∀ (s : Store) (f : Filter) (ws : List WorkItem) (n : Nat),
    Reachable s → (listItems f none none).runOn s = (.ok (ws, n), s) →
    ∀ limit, 1 ≤ limit → limit < 18446744073709551616 →
      ∃ pages, Walk (GivesPage f s) Links.next ⟨0, limit⟩ pages ∧ pages.flatten = ws := by
  intro h
  obtain ⟨ws, hlist⟩ := exists_mixedList
  obtain ⟨pages, hwalk, -⟩ :=
    h _ mixedFilter ws 3 ⟨mixedRun, rfl⟩ hlist 9223372036854775808 (by decide) (by decide)
  exact absurd (limit_lt_of_walk hwalk) (Nat.lt_irrefl _)

end Backlog.Store
