import Backlog.Proofs.Field.ReadBack
import Backlog.Proofs.Store.ItemCauses

/-!
# Items are read back, but for what nests deep

An operation that writes an item answers with the values that it has in hand. Every later look reads
them from the text of the row, and what is read may nest less deep than what is written.

**Main statement (`item_then_read`).** An item that has been written is loaded and listed as it was
answered exactly if its fields come back from their text (`Record.ComesBack`): they nest at most 127
levels deep, and the floating numbers in them are read as they are written. One row that cannot be
shown is enough for the list of all items to fail.

**The gap** (`exists_item_not_read_back`): a value of 127 levels in a field is the 128th level of
the record, which is written and answered, and refused from then on.
-/

namespace Backlog

/-- The record comes back from its text: it nests no deeper than is read, and every floating number
is read as it is written. -/
def Record.ComesBack (r : Record Json) : Prop :=
  (Json.ofRecord r).depth ≤ Json.depthLimit ∧ r.Rereads r

instance (r : Record Json) : Decidable r.ComesBack :=
  inferInstanceAs (Decidable (_ ∧ Json.rereadMembers? r.entries = some r.entries))

namespace Store

open Store.Action

variable {s s' : Store} {op : Operation} {k : Nat} {r : ItemRow} {t : ItemType} {w : WorkItem}
  {stored shown : Record Json} {text : String} {now : Int}

/-! ## Live rows -/

theorem findLive_of_mem (hs : Numbered s) (hr : r ∈ liveItems s) (hreadable : r.unreadable = none) :
    findLive r.id s = .ok (some r) := by
  obtain ⟨hmem, hlive⟩ := mem_liveItems.1 hr
  refine findLive_eq_ok.2 ⟨find?_eq_some_of_unique hmem (by simpa using hlive) ?_, hreadable⟩
  intro q hq hfound
  have hid : q.id = r.id ∧ q.deleted = false := by simpa using hfound
  exact hs.eq_of_id hq hmem hid.1

/-- The row can be shown: what it holds can be read, and its enumerations of floating numbers still
allow what is read. -/
def ItemRow.CanBeShown (s : Store) (r : ItemRow) : Prop :=
  ∃ t stored, ItemRow.Kept s r t stored ∧ (Json.ofRecord stored).depth ≤ Json.depthLimit ∧
    ∃ held, stored.Rereads held ∧ t.fields.AllowsFloats held

theorem showListed_of_kept (hreadable : r.unreadable = none) (h : ItemRow.Kept s r t stored) :
    showListed s r = ItemRow.show t r := by
  rw [showListed, hreadable, storedType_eq_ok.2 h.1]
  rfl

theorem exists_showListed_iff (hreadable : r.unreadable = none)
    (h : ∃ t stored, ItemRow.Kept s r t stored) :
    (∃ w, showListed s r = .ok w) ↔ ItemRow.CanBeShown s r := by
  constructor
  · intro hshown
    obtain ⟨t, stored, hkept⟩ := h
    rw [showListed_of_kept hreadable hkept, hkept.show_iff] at hshown
    exact ⟨t, stored, hkept, hshown⟩
  · rintro ⟨t, stored, hkept, hcan⟩
    rw [showListed_of_kept hreadable hkept]
    exact hkept.show_iff.2 hcan

/-- There is a list of all items exactly if every live row is shown. -/
theorem exists_listItems_all_iff :
    (∃ ws total, (listItems .all none none).runOn s = (.ok (ws, total), s)) ↔
      ∀ r ∈ liveItems s, ∃ w, showListed s r = .ok w := by
  simp only [listItems_all_eq_ok_iff]
  constructor
  · rintro ⟨ws, _, -, hall⟩ r hr
    obtain ⟨w, -, hw⟩ := exists_of_mem_left hall hr
    exact ⟨w, hw⟩
  · intro hall
    obtain ⟨ws, hws⟩ := exists_forall₂ hall
    exact ⟨ws, _, rfl, hws⟩

/-! ## Written rows -/

/-- The row has been written with what the type has converted, and the item was answered for it. -/
structure Written (s : Store) (r : ItemRow) (t : ItemType) (stored : Record Json) (w : WorkItem) :
    Prop where
  live : r ∈ liveItems s
  readable : r.unreadable = none
  kept : ItemRow.Kept s r t stored
  wire : t.fields.toWire stored = .ok w.fields
  item : w = ⟨idText r.id, r.typeName, r.version, w.fields, some r.created, some r.updated⟩

theorem written_mapItem {version : Int} (live : findLive k s = .ok (some r))
    (hkept : ItemRow.Kept s (ItemRow.written t.name version text now r) t stored)
    (wire : t.fields.toWire stored = .ok shown) :
    Written (mapItem k (ItemRow.written t.name version text now) s)
      (ItemRow.written t.name version text now r) t stored
      ⟨idText k, t.name, version, shown, some r.created, some now⟩ := by
  obtain ⟨hr, rfl, hlive, -⟩ := live_of_findLive live
  exact {
    live := mem_liveItems.2 ⟨List.mem_map.2 ⟨r, hr, if_pos rfl⟩, hlive⟩
    readable := rfl
    kept := hkept.mono fun _ _ ht => ht
    wire := wire
    item := rfl }

/-- What is answered as written stands in a row. -/
theorem exists_written {ops : List Operation} (hops : ∀ op ∈ ops, op.WellFormed)
    (hop : op.WellFormed) (hlooks : ¬ op.Looks)
    (heffect : Operation.Effect (run ops empty).2 op (.item w) s') :
    ∃ r t stored, Written s' r t stored w := by
  cases heffect with
  | looks looks => exact absurd looks hlooks
  | @createItem now typeName creator fields stored shown t text type storage printed wire =>
    have hinput : (fields.insert WorkItem.creatorField (.str creator)).WellFormed :=
      Record.WellFormed.insert hop _ trivial
    let row : ItemRow :=
      ⟨(run ops empty).2.lastItem + 1, t.name, 0, text, false, now, now, none⟩
    have hconverted : ItemRow.Converted (run ops empty).2 row t stored :=
      converted_of_toStorage type hinput storage printed rfl rfl
    exact ⟨row, t, stored, {
      live := mem_liveItems.2 ⟨List.mem_append_right _ (List.mem_singleton_self row), rfl⟩
      readable := rfl
      kept := hconverted.1.mono fun _ _ ht => ht
      wire := wire
      item := rfl }⟩
  | saveItem id live seen type storage version printed wire =>
    exact ⟨_, _, _, written_mapItem live
      (converted_of_toStorage type hop storage printed rfl rfl).1 wire⟩
  | assignItem id live seen read assigned type before storage next printed after =>
    obtain ⟨_, _, hkept, -⟩ := AllConverted.run hops _ (live_of_findLive live).1
    have hedited := wellFormed_of_assigned hkept read assigned
    have hinput := FieldSet.wellFormed_of_convert before hedited
    exact ⟨_, _, _, written_mapItem live
      (converted_of_toStorage type hinput storage printed rfl rfl).1 after⟩

namespace Written

variable (h : Written s r t stored w)

include h

/-- The row is shown as it was answered exactly if the fields come back from their text. -/
theorem showListed_eq_ok : showListed s r = .ok w ↔ w.fields.ComesBack := by
  have hdepth : (Json.ofRecord w.fields).depth ≤ Json.depthLimit ↔
      (Json.ofRecord stored).depth ≤ Json.depthLimit := FieldSet.depth_convert_le_iff h.wire
  rw [showListed_of_kept h.readable h.kept, show_eq_ok, Record.ComesBack, hdepth]
  constructor
  · rintro ⟨held, fields, hheld, hfields, hw⟩
    obtain ⟨hdeep, hread⟩ := (readFields_eq_ok h.kept).1 hheld
    obtain rfl : w.fields = fields := congrArg WorkItem.fields hw
    exact ⟨hdeep, ((h.kept.2.2.2.shown_reread_iff h.wire).1 ⟨hread, hfields⟩).2⟩
  · rintro ⟨hdeep, hback⟩
    obtain ⟨hread, -⟩ := (h.kept.2.2.2.shown_reread_iff h.wire).2 ⟨rfl, hback⟩
    exact ⟨stored, w.fields, (readFields_eq_ok h.kept).2 ⟨hdeep, hread⟩, h.wire, h.item⟩

theorem id_eq : w.id = idText r.id := congrArg WorkItem.id h.item

/-- Loading the item shows its row. -/
theorem loadItem_iff (hs : Numbered s) {found : WorkItem} :
    (loadItem w.id).runOn s = (.ok found, s) ↔
      (∃ k, itemId? w.id = some k) ∧ showListed s r = .ok found := by
  rw [loadItem_runOn_eq_ok, and_iff_right rfl, showListed_of_kept h.readable h.kept, h.id_eq]
  constructor
  · rintro ⟨k, q, t', hk, hlive, ht, hshow⟩
    obtain ⟨hq, hid, -⟩ := live_of_findLive hlive
    obtain rfl := eq_of_itemId?_idText hk
    obtain rfl := hs.eq_of_id hq (mem_liveItems.1 h.live).1 hid
    obtain rfl : t' = t := by simpa [ht] using h.kept.1
    exact ⟨⟨_, hk⟩, hshow⟩
  · rintro ⟨⟨k, hk⟩, hshow⟩
    obtain rfl := eq_of_itemId?_idText hk
    exact ⟨r.id, r, t, hk, findLive_of_mem hs h.live h.readable, h.kept.1, hshow⟩

theorem loadItem_eq_ok (hs : Numbered s) : (loadItem w.id).runOn s = (.ok w, s) ↔
    (∃ k, itemId? w.id = some k) ∧ w.fields.ComesBack := by
  rw [h.loadItem_iff hs, h.showListed_eq_ok]

/-- Whatever the row shows is the item with its fields read from their text. -/
theorem of_showListed {found : WorkItem} (hshow : showListed s r = .ok found) :
    found = { w with fields := found.fields } ∧
      ∀ name, found.fields.find? name = (w.fields.find? name).bind Json.reread? := by
  rw [showListed_of_kept h.readable h.kept] at hshow
  obtain ⟨held, fields, hheld, hfields, rfl⟩ := show_eq_ok.1 hshow
  obtain ⟨-, hread⟩ := (readFields_eq_ok h.kept).1 hheld
  refine ⟨?_, h.kept.2.2.2.find?_reread_shown h.wire hread hfields⟩
  rw [h.item]

theorem mem_list_iff (hs : Numbered s) {ws : List WorkItem} (hall : ShownAs s (liveItems s) ws) :
    w ∈ ws ↔ w.fields.ComesBack := by
  rw [mem_iff_of_forall₂ hall, ← h.showListed_eq_ok]
  constructor
  · rintro ⟨q, hq, hshow⟩
    have hid : idText q.id = idText r.id := (id_of_showListed hshow).symm.trans h.id_eq
    rwa [← hs.eq_of_id (mem_liveItems.1 hq).1 (mem_liveItems.1 h.live).1 (idText_injective hid)]
  · intro hshow
    exact ⟨r, h.live, hshow⟩

end Written

/-- **Items are read back as they were answered, or not at all.** After every run, an item that an
operation has written is loaded, and found in the list of all items, as it was answered exactly if
its fields come back from their text. There is a list exactly if every live row can be shown. -/
theorem item_then_read {ops : List Operation} (hops : ∀ op ∈ ops, op.WellFormed)
    (hop : op.WellFormed) (hlooks : ¬ op.Looks)
    (hrun : op.run (run ops empty).2 = (.ok (.item w), s')) :
    ((loadItem w.id).runOn s' = (.ok w, s') ↔
        (∃ k, itemId? w.id = some k) ∧ w.fields.ComesBack) ∧
      ((∃ ws total, (listItems .all none none).runOn s' = (.ok (ws, total), s')) ↔
        ∀ r ∈ liveItems s', ItemRow.CanBeShown s' r) ∧
      ∀ ws total, (listItems .all none none).runOn s' = (.ok (ws, total), s') →
        (w ∈ ws ↔ w.fields.ComesBack) := by
  have heffect := Operation.effect_of_run hrun
  obtain ⟨r, t, stored, hwritten⟩ := exists_written hops hop hlooks heffect
  have hrun' : (run (ops ++ [op]) empty).2 = s' := by
    rw [run_append]
    exact congrArg Prod.snd hrun
  have hintact : Intact s' := by
    rw [← hrun']
    exact Intact.run (List.forall_mem_append.2 ⟨hops, List.forall_mem_singleton.2 hop⟩)
  have hs : Numbered s' := (numbered_empty.run ops).effect heffect
  refine ⟨hwritten.loadItem_eq_ok hs, ?_, fun ws total hlist => ?_⟩
  · rw [exists_listItems_all_iff]
    refine forall₂_congr fun r hr => ?_
    obtain ⟨hr, -⟩ := mem_liveItems.1 hr
    exact exists_showListed_iff (hintact.readable r hr) (hintact.kept r hr)
  · rw [listItems_all_eq_ok_iff] at hlist
    exact hwritten.mem_list_iff hs hlist.2

/-! ## The gap -/

/-- A value of so many levels. -/
def nested : Nat → Json
  | 0 => .null
  | n + 1 => .arr [nested n]

theorem wellFormed_nested (n : Nat) : (nested n).WellFormed := by
  induction n with
  | zero => trivial
  | succ n ih => exact ⟨ih, trivial⟩

def deepRun : List Operation := [.createType none "t" .empty]

/-- An item is made with a value of 127 levels. -/
def deepItem : Operation := .createItem 0 "t" (Record.empty.insert "x" (nested 127)) "u"

theorem wellFormed_deepRun : ∀ op ∈ deepRun, op.WellFormed := by
  intro op hop
  rw [List.mem_singleton.1 hop]
  trivial

theorem wellFormed_deepItem : deepItem.WellFormed :=
  Record.wellFormed_empty.insert "x" (wellFormed_nested 127)

/-- The fields of an answered item. -/
def Answer.fields? : Answer → Option (Record Json)
  | .item w => some w.fields
  | _ => none

theorem Answer.fields?_eq_some {a : Answer} {fields : Record Json} :
    a.fields? = some fields ↔ ∃ w, a = .item w ∧ w.fields = fields := by
  cases a <;> simp [fields?]

theorem run_deepItem : ∃ w s', deepItem.run (run deepRun empty).2 = (.ok (.item w), s') ∧
    ¬ w.fields.ComesBack := by
  have hdepth : ((deepItem.run (run deepRun empty).2).1.toOption.bind Answer.fields?).map
      (fun fields => (Json.ofRecord fields).depth) = some 128 := by
    decide +kernel
  rcases hrun : deepItem.run (run deepRun empty).2 with ⟨e | a, s'⟩
  · rw [hrun] at hdepth
    cases hdepth
  · rw [hrun] at hdepth
    obtain ⟨_, hfields, hw⟩ := Option.map_eq_some_iff.1 hdepth
    obtain ⟨w, rfl, rfl⟩ := Answer.fields?_eq_some.1 hfields
    refine ⟨w, s', rfl, fun hback => ?_⟩
    rw [Record.ComesBack, hw] at hback
    exact absurd hback.1 (by decide)

/-- The item has been made and answered, but is neither loaded nor listed. -/
theorem item_then_read_deepItem : ∃ w s',
    deepItem.run (run deepRun empty).2 = (.ok (.item w), s') ∧
      (loadItem w.id).runOn s' ≠ (.ok w, s') ∧
      ¬ ∃ ws total, (listItems .all none none).runOn s' = (.ok (ws, total), s') ∧ w ∈ ws := by
  obtain ⟨w, s', hrun, hlost⟩ := run_deepItem
  obtain ⟨hload, -, hlisted⟩ := item_then_read wellFormed_deepRun wellFormed_deepItem id hrun
  refine ⟨w, s', hrun, fun hloaded => hlost (hload.1 hloaded).2, ?_⟩
  rintro ⟨ws, total, hlist, hw⟩
  exact hlost ((hlisted ws total hlist).1 hw)

/-- Not every item that has been written is loaded and listed. -/
theorem exists_item_not_read_back : ¬ ∀ (ops : List Operation) (op : Operation) (w : WorkItem)
    (s' : Store), (∀ op ∈ ops, op.WellFormed) → op.WellFormed → ¬ op.Looks →
      op.run (run ops empty).2 = (.ok (.item w), s') →
        (∃ w', (loadItem w.id).runOn s' = (.ok w', s') ∧ w'.id = w.id ∧
          w'.typeName = w.typeName ∧ w'.version = w.version ∧ w'.fields = w.fields) ∧
        ∃ ws total, (listItems .all none none).runOn s' = (.ok (ws, total), s') ∧ w ∈ ws := by
  intro h
  obtain ⟨w, s', hrun, hlost⟩ := run_deepItem
  obtain ⟨-, ws, total, hlist, hw⟩ :=
    h deepRun deepItem w s' wellFormed_deepRun wellFormed_deepItem id hrun
  have heffect := Operation.effect_of_run hrun
  obtain ⟨r, t, stored, hwritten⟩ :=
    exists_written wellFormed_deepRun wellFormed_deepItem id heffect
  have hs : Numbered s' := (numbered_empty.run deepRun).effect heffect
  exact hlost ((hwritten.mem_list_iff hs (listItems_all_eq_ok_iff.1 hlist).2).1 hw)

end Store

end Backlog
