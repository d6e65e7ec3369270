import Backlog.Proofs.Store.ItemCauses

/-!
# Ids are given once, and deletion is for good

**Ids.** The items that a run makes have the ids from one on, in the order in which they were made.
What fails or is deleted in between does not count (`ids_made`).

**Deletion.** An operation that succeeds leaves the row of a deleted item as it is: every way to
write a row looks for a live one first (`item?_run`). All looks at the store go through the live
items, so they give what they would give without the row.

**Main statement (`ids_once_and_deletion_for_good`).** The ids are given in order and once. After
an item has been deleted, whatever follows, every operation that names it in some spelling fails to
find it, no list and no count takes it in, and its row stays as it was.
-/

namespace Backlog.Store

open Store.Action

variable {s s' : Store} {op : Operation} {k : Nat} {r : ItemRow} {ops : List Operation}

/-! ## Ids -/

/-- The item that an operation made, if it was one that makes an item and it succeeded. -/
def Operation.made? : Operation → Except Error Answer → Option WorkItem
  | .createItem _ _ _ _, .ok (.item w) => some w
  | _, _ => none

/-- The items that the operations of a run make. -/
def made (ops : List Operation) (s : Store) : List WorkItem :=
  (ops.zip (run ops s).1).filterMap fun asked => asked.1.made? asked.2

theorem made_cons (op : Operation) (ops : List Operation) (s : Store) :
    made (op :: ops) s = (op.made? (op.run s).1).toList ++ made ops (op.run s).2 := by
  rw [made, run, List.zip_cons_cons, List.filterMap_cons]
  cases op.made? (op.run s).1 <;> rfl

/-- An operation makes an item with the next id, or it makes none and the next id stays. -/
theorem made?_run (op : Operation) (s : Store) :
    (∃ w, op.made? (op.run s).1 = some w ∧ w.id = idText (s.lastItem + 1) ∧
      (op.run s).2.lastItem = s.lastItem + 1) ∨
    (op.made? (op.run s).1 = none ∧ (op.run s).2.lastItem = s.lastItem) := by
  rcases op.run_cases s with ⟨e, he⟩ | ⟨a, s', hs', heffect⟩
  · rw [he]
    exact .inr ⟨by cases op <;> rfl, rfl⟩
  rw [hs']
  cases heffect with
  | createItem => exact .inl ⟨_, rfl, rfl, rfl⟩
  | seedTypes grows | createType grows =>
    obtain ⟨rows, rfl⟩ := grows.exists_append
    exact .inr ⟨rfl, rfl⟩
  | looks hlooks => exact .inr ⟨by cases op <;> first | rfl | exact hlooks.elim, rfl⟩
  | createIdentity | saveItem | assignItem | deleteItem | createIteration | createChild
  | saveIteration | moveIteration => exact .inr ⟨rfl, rfl⟩

theorem ids_made (ops : List Operation) (s : Store) :
    (made ops s).map (·.id) =
      (List.range' (s.lastItem + 1) (made ops s).length).map idText := by
  induction ops generalizing s with
  | nil => rfl
  | cons op ops ih =>
    rw [made_cons, List.map_append, ih]
    rcases made?_run op s with ⟨w, hmade, hid, hlast⟩ | ⟨hmade, hlast⟩
    · rw [hmade, hlast, Option.toList_some, List.singleton_append, List.length_cons,
        List.range'_succ, List.map_cons, List.map_cons, hid]
      rfl
    · rw [hmade, hlast]
      rfl

/-! ## The row of an item -/

/-- The row of an item, live or deleted. -/
def item? (k : Nat) (s : Store) : Option ItemRow := s.items.find? (·.id = k)

theorem item?_eq_some (h : Numbered s) : item? k s = some r ↔ r ∈ s.items ∧ r.id = k := by
  constructor
  · intro hr
    exact ⟨List.mem_of_find?_eq_some hr, by simpa using List.find?_some hr⟩
  · intro hr
    obtain ⟨hr, rfl⟩ := hr
    exact find?_eq_some_of_unique hr (by simp) fun q hq hid =>
      h.eq_of_id hq hr (by simpa using hid)

/-- No live item has the id. -/
def Hidden (k : Nat) (s : Store) : Prop := ∀ r ∈ s.items, r.id = k → r.deleted = true

theorem hidden_of_item? (h : Numbered s) (hr : item? k s = some r) (hdeleted : r.deleted = true) :
    Hidden k s := by
  intro q hq hid
  obtain ⟨hr, hrid⟩ := (item?_eq_some h).1 hr
  rwa [h.eq_of_id hq hr (hid.trans hrid.symm)]

theorem item?_mapItem_self {f : ItemRow → ItemRow} (h : Numbered s) (hf : ∀ r, (f r).id = r.id)
    (hr : item? k s = some r) : item? k (mapItem k f s) = some (f r) := by
  obtain ⟨hmem, rfl⟩ := (item?_eq_some h).1 hr
  exact (item?_eq_some (h.mapItem hf)).2 ⟨List.mem_map.2 ⟨r, hmem, if_pos rfl⟩, hf r⟩

theorem item?_mapItem_of_ne {f : ItemRow → ItemRow} {k' : Nat} (h : Numbered s)
    (hf : ∀ r, (f r).id = r.id) (hne : k ≠ k') (hr : item? k s = some r) :
    item? k (mapItem k' f s) = some r := by
  obtain ⟨hmem, rfl⟩ := (item?_eq_some h).1 hr
  exact (item?_eq_some (h.mapItem hf)).2 ⟨List.mem_map.2 ⟨r, hmem, if_neg hne⟩, rfl⟩

/-- An operation leaves the row of an item as it is, unless the item is live and the operation
writes or deletes it. -/
theorem item?_effect_cases {a : Answer} (h : Numbered s) (hr : item? k s = some r)
    (heffect : Operation.Effect s op a s') :
    item? k s' = some r ∨ r.deleted = false ∧
      (op.target? = some k ∨ ∃ q, item? k s' = some q ∧ q.deleted = true) := by
  obtain ⟨hmem, hrid⟩ := (item?_eq_some h).1 hr
  have hlive {q : ItemRow} (hq : q ∈ s.items) (hid : q.id = k) (hdeleted : q.deleted = false) :
      r.deleted = false := by
    rwa [h.eq_of_id hmem hq (hrid.trans hid.symm)]
  have hwritten {k' : Nat} {q : ItemRow} {f : ItemRow → ItemRow} (hf : ∀ r, (f r).id = r.id)
      (htarget : op.target? = some k') (live : findLive k' s = .ok (some q)) :
      item? k (mapItem k' f s) = some r ∨ r.deleted = false ∧ op.target? = some k := by
    by_cases hk : k = k'
    · subst hk
      obtain ⟨hq, hid, hdeleted, -⟩ := live_of_findLive live
      exact .inr ⟨hlive hq hid hdeleted, htarget⟩
    · exact .inl (item?_mapItem_of_ne h hf hk hr)
  cases heffect with
  | saveItem hid live | assignItem hid live =>
    refine Or.imp_right (And.imp_right .inl) (hwritten ?_ hid live)
    exact fun _ => rfl
  | @deleteItem _ _ k' _ live =>
    by_cases hk : k = k'
    · subst hk
      obtain ⟨q, hq, hid, hdeleted⟩ := live
      exact .inr ⟨hlive hq hid hdeleted, .inr ⟨_, item?_mapItem_self h (fun _ => rfl) hr, rfl⟩⟩
    · exact .inl (item?_mapItem_of_ne h (fun _ => rfl) hk hr)
  | createItem =>
    exact .inl ((item?_eq_some (h.addItem _ _ _)).2 ⟨List.mem_append_left _ hmem, hrid⟩)
  | seedTypes grows | createType grows =>
    obtain ⟨rows, rfl⟩ := grows.exists_append
    exact .inl hr
  | looks | createIdentity | createIteration | createChild | saveIteration | moveIteration =>
    exact .inl hr

/-- An operation leaves the row of a deleted item as it is. -/
theorem item?_effect {a : Answer} (h : Numbered s) (hr : item? k s = some r)
    (hdeleted : r.deleted = true) (heffect : Operation.Effect s op a s') :
    item? k s' = some r := by
  refine (item?_effect_cases h hr heffect).resolve_right ?_
  rintro ⟨hlive, -⟩
  cases hlive.symm.trans hdeleted

theorem item?_run (h : Numbered s) (hr : item? k s = some r) (hdeleted : r.deleted = true)
    (ops : List Operation) : Numbered (run ops s).2 ∧ item? k (run ops s).2 = some r :=
  run_induction (P := fun s => Numbered s ∧ item? k s = some r) ops ⟨h, hr⟩
    fun _ hs heffect => ⟨hs.1.effect heffect, item?_effect hs.1 hs.2 hdeleted heffect⟩

/-! ## Looking for a deleted item -/

/-- The text by which an operation names the item that it is for. -/
def Operation.itemNamed? : Operation → Option String
  | loadItem id => some id
  | saveItem _ _ item => some item.id
  | assignItem _ id _ _ => some id
  | deleteItem _ id => some id
  | _ => none

theorem runOn_itemIdOf {given : String} (hid : itemId? given = some k) (s : Store) :
    (itemIdOf given).runOn s = (.ok k, s) :=
  itemIdOf_runOn_eq_ok.2 ⟨hid, rfl⟩

theorem Hidden.runOn_liveRow (h : Hidden k s) (given : String) :
    (liveRow k given).runOn s = (.error (.notFound .workItem given), s) := by
  have hnone : s.items.find? (fun r => r.id = k ∧ r.deleted = false) = none := by
    simpa using fun r hr hid => h r hr hid
  have hfind : findLive k s = .ok none := by rw [findLive.eq_def, hnone]
  rw [liveRow, get_bind_runOn, hfind, runOn_bind, runOn_ofResult]
  rfl

/-- Every operation that names a hidden item fails to find it. -/
theorem Hidden.run_eq_notFound (h : Hidden k s) {given : String}
    (hop : op.itemNamed? = some given) (hid : itemId? given = some k) :
    op.run s = (.error (.notFound .workItem given), s) := by
  have hrow := h.runOn_liveRow given
  cases op with
  | loadItem id =>
    obtain rfl := Option.some.inj hop
    rw [Operation.run, Operation.action, runOn_map, loadItem, runOn_bind, runOn_itemIdOf hid]
    simp only [runOn_bind, hrow]
    rfl
  | saveItem now checked item =>
    obtain rfl := Option.some.inj hop
    rw [Operation.run, Operation.action, runOn_map, saveItem, runOn_bind, runOn_itemIdOf hid]
    simp only [transaction, runOn_atomically, runOn_bind, hrow]
    rfl
  | assignItem now id version assignee =>
    obtain rfl := Option.some.inj hop
    rw [Operation.run, Operation.action, runOn_map, assignItem, runOn_bind, runOn_itemIdOf hid]
    simp only [transaction, runOn_atomically, runOn_bind, hrow]
    rfl
  | deleteItem now id =>
    obtain rfl := Option.some.inj hop
    have hnone : ¬ (s.items.any fun r => r.id = k ∧ r.deleted = false) = true := by
      simpa using fun r hr hid => h r hr hid
    rw [Operation.run, Operation.action, runOn_map, deleteItem, runOn_bind, runOn_itemIdOf hid]
    simp only [runOn_statement, if_neg hnone]
    rfl
  | _ => cases hop

/-! ## Lists and counts -/

/-- The store without the row of an item. -/
def without (k : Nat) (s : Store) : Store := { s with items := s.items.filter (·.id ≠ k) }

theorem Hidden.liveItems_without (h : Hidden k s) : liveItems (without k s) = liveItems s := by
  rw [liveItems, liveItems, without, List.filter_filter]
  refine List.filter_congr fun r hr => ?_
  by_cases hid : r.id = k
  · simp [h r hr hid]
  · simp [hid]

theorem Hidden.listItems_without (h : Hidden k s) (f : Filter) (offset limit : Option Nat) :
    ((listItems f offset limit).runOn (without k s)).1 =
      ((listItems f offset limit).runOn s).1 := by
  have hshow : showListed (without k s) = showListed s := rfl
  rw [listItems, get_bind_runOn, get_bind_runOn, h.liveItems_without, hshow]
  rcases f.toPredicate [] with ⟨e | p, params⟩
  · rfl
  simp only [runOn_bind, runOn_ofResult]
  cases selected p params (liveItems s) with
  | error e => rfl
  | ok rows =>
    simp only
    cases window offset limit rows with
    | error e => rfl
    | ok kept =>
      simp only
      cases kept.mapM (showListed s) <;> rfl

theorem Hidden.itemCounts_without (h : Hidden k s) (space : Uuid) :
    ((itemCounts space).runOn (without k s)).1 = ((itemCounts space).runOn s).1 := by
  have hcounts : countsOf (without k s) = countsOf s := by
    funext iteration
    rw [countsOf, countsOf, h.liveItems_without]
  have hiterations : (without k s).iterations = s.iterations := rfl
  rw [itemCounts, get_bind_runOn, get_bind_runOn, hcounts, hiterations]
  simp only [runOn_bind, runOn_ofResult]
  generalize List.mapM readCounts _ = counts
  cases counts <;> rfl

/-- No list shows a hidden item. -/
theorem Hidden.ne_of_listItems (h : Hidden k s) {f : Filter} {offset limit : Option Nat}
    {ws : List WorkItem} {total : Nat}
    (hlist : (listItems f offset limit).runOn s = (.ok (ws, total), s)) {w : WorkItem}
    (hw : w ∈ ws) : w.id ≠ idText k := by
  obtain ⟨-, p, params, rows, -, hrows, -, -, -, hshown⟩ := listItems_runOn_eq_ok.1 hlist
  obtain ⟨r, hr, hshow⟩ := exists_of_mem_right hshown hw
  obtain ⟨hr, hlive⟩ := mem_liveItems.1 (selected_subset hrows (cut_subset _ _ _ hr))
  rw [id_of_showListed hshow]
  intro hid
  rw [h r hr (idText_injective hid)] at hlive
  cases hlive

/-! ## Deletion -/

/-- No operation finds the item, and no list and no count takes it in. -/
structure Gone (k : Nat) (s : Store) : Prop where
  notFound : ∀ (op : Operation) (given : String), op.itemNamed? = some given →
    itemId? given = some k → op.run s = (.error (.notFound .workItem given), s)
  listed : ∀ f offset limit, ((listItems f offset limit).runOn s).1 =
    ((listItems f offset limit).runOn (without k s)).1
  shown : ∀ f offset limit ws total, (listItems f offset limit).runOn s = (.ok (ws, total), s) →
    ∀ w ∈ ws, w.id ≠ idText k
  counted : ∀ space,
    ((itemCounts space).runOn s).1 = ((itemCounts space).runOn (without k s)).1

theorem Hidden.gone (h : Hidden k s) : Gone k s where
  notFound _ _ := h.run_eq_notFound
  listed f offset limit := (h.listItems_without f offset limit).symm
  shown _ _ _ _ _ hlist _ := h.ne_of_listItems hlist
  counted space := (h.itemCounts_without space).symm

/-- A deletion that succeeds hides the row of the item and changes nothing else of it. -/
theorem item?_of_deleteItem {now : Int} {id : String} (h : Numbered s)
    (hdone : ((Operation.deleteItem now id).run s).1.toBool = true) :
    ∃ k r, itemId? id = some k ∧ item? k s = some r ∧
      item? k ((Operation.deleteItem now id).run s).2 = some (ItemRow.hidden now r) := by
  rcases (Operation.deleteItem now id).run_cases s with ⟨e, he⟩ | ⟨a, s', hs', heffect⟩
  · rw [he] at hdone
    cases hdone
  rw [hs']
  cases heffect with
  | looks hlooks => exact hlooks.elim
  | deleteItem hid live =>
    obtain ⟨r, hr, rfl, -⟩ := live
    have hrow : item? r.id s = some r := (item?_eq_some h).2 ⟨hr, rfl⟩
    exact ⟨r.id, r, hid, hrow, item?_mapItem_self h (fun _ => rfl) hrow⟩

/-- **Ids are given once, and deletion is for good.** The items that a run makes have the ids from
one on in decimal, in their order. After a deletion that succeeded and whatever follows it, the
item is gone under every spelling of its id, and its row is as the deletion left it: hidden, and
with the content that it had. -/
theorem ids_once_and_deletion_for_good :
    (∀ ops, (made ops empty).map (·.id) = (List.range' 1 (made ops empty).length).map idText ∧
      ((made ops empty).map (·.id)).Nodup) ∧
    ∀ (before more : List Operation) (now : Int) (id : String),
      ((Operation.deleteItem now id).run (run before empty).2).1.toBool = true →
        ∃ k r, itemId? id = some k ∧ item? k (run before empty).2 = some r ∧
          Gone k (run (before ++ .deleteItem now id :: more) empty).2 ∧
          item? k (run (before ++ .deleteItem now id :: more) empty).2 =
            some (ItemRow.hidden now r) := by
  refine ⟨fun ops => ⟨ids_made ops empty, ?_⟩, fun before more now id hdone => ?_⟩
  · rw [ids_made]
    exact List.Nodup.map idText_injective List.nodup_range'
  · have hnumbered := numbered_empty.run before
    obtain ⟨k, r, hid, hrow, hhidden⟩ := item?_of_deleteItem hnumbered hdone
    obtain ⟨hnumbered', hkept⟩ := item?_run (hnumbered.run_one _) hhidden rfl more
    rw [run_append_cons]
    exact ⟨k, r, hid, hrow, (hidden_of_item? hnumbered' hkept rfl).gone, hkept⟩

/-- Three items and three that fail to be made, deleted under another spelling of the id, and then
asked for under a third one. -/
theorem ids_once_and_deletion_for_good_spellings :
    let before : List Operation := [.createType none "t" .empty, .createItem 1 "t" .empty "ann",
      .createItem 2 "u" .empty "ann", .createItem 3 "t" .empty "bob", .createItem 4 "t" .empty ""]
    let more : List Operation := [.saveItem 6 false ⟨"+2", "t", 1, .empty, none, none⟩,
      .createItem 7 "t" .empty "cem"]
    (made (before ++ .deleteItem 5 " 02 " :: more) empty).map (·.id) = ["1", "2", "3"] ∧
      Gone 2 (run (before ++ .deleteItem 5 " 02 " :: more) empty).2 := by
  intro before more
  have hdone : ((Operation.deleteItem 5 " 02 ").run (run before empty).2).1.toBool = true := by
    decide +kernel
  have hlength : (made (before ++ .deleteItem 5 " 02 " :: more) empty).length = 3 := by
    decide +kernel
  obtain ⟨hids, hdeletion⟩ := ids_once_and_deletion_for_good
  refine ⟨?_, ?_⟩
  · rw [(hids _).1, hlength]
    decide +kernel
  · obtain ⟨k, r, hid, -, hgone, -⟩ := hdeletion before more 5 " 02 " hdone
    obtain rfl : k = 2 := by
      have hspelled : itemId? " 02 " = some 2 := by decide +kernel
      exact Option.some.inj (hid.symm.trans hspelled)
    exact hgone

end Backlog.Store
