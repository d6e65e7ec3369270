import Backlog.Proofs.Field.Shape
import Backlog.Proofs.Filter.Decision
import Backlog.Proofs.Filter.Meaning
import Backlog.Proofs.Sql.Condition
import Backlog.Proofs.Store.Versions

/-!
# Lists of items

**Main statement (`listItems_matching`).** Where every live item can be loaded, a list is a window
of the live items of which the filter is true, in the order of their ids. It shows each as loading
it does, and counts them all.

**The condition** that rows are asked for with is true of those items and of no others, deleted ones
included, whatever the filter is.

**Taken for granted** is that looking at the path of a field gives the stored value of the field
(`Extracts`). It does not where the name of the field holds a NUL, nor where a floating number is
read as another one than where the item is shown.

**Left aside** is how long and how deep the statements of a list are. A store that takes them gives
callers this list (`listWithin_runOn_eq_ok`).
-/

namespace Backlog.Store

open Backlog.Filter (fieldValue pathText)
open Predicate (bound)
open Store.Action

variable {s : Store} {r : ItemRow} {w : WorkItem} {f : Filter} {p : Predicate}
  {params : List Datum} {held : Record Json} {offset limit : Option Nat}

/-! ## Windows -/

section Window

variable {α : Type} {xs ys : List α}

/-- So many elements of a list skipped and so many of the others kept, or all. -/
def cut (offset limit : Option Nat) (xs : List α) : List α :=
  (xs.drop (offset.getD 0)).take (limit.getD xs.length)

@[simp]
theorem cut_none (xs : List α) : cut none none xs = xs := List.take_of_length_le (Nat.le_refl _)

/-- A bound that is a number of 64 bits with a sign, or none. -/
def InRange (bound : Option Nat) : Prop := ∀ n ∈ bound, n < 9223372036854775808

theorem checkBound_eq_ok {bound : Option Nat} {u : Unit} :
    checkBound bound = .ok u ↔ InRange bound := by
  cases bound with
  | none => simp [checkBound, InRange]
  | some n => by_cases h : n < 9223372036854775808 <;> simp [checkBound, InRange, h]

/-- A window is cut out if its bounds are in range; the offset of an empty one does not count. -/
theorem window_eq_ok : window offset limit xs = .ok ys ↔
    InRange limit ∧ (limit = some 0 ∨ InRange offset) ∧ ys = cut offset limit xs := by
  simp only [window, bind_eq_ok, checkBound_eq_ok, exists_const, pure, Except.pure]
  refine and_congr_right fun _ => ?_
  by_cases hzero : limit = some 0
  · simp [hzero, cut, eq_comm]
  · rw [if_neg hzero]
    simp only [bind_eq_ok, checkBound_eq_ok, exists_const, hzero, false_or, Except.ok.injEq]
    refine and_congr_right fun _ => ?_
    cases limit with
    | none =>
      have hall : (xs.drop (offset.getD 0)).take xs.length = xs.drop (offset.getD 0) :=
        List.take_of_length_le (by simp)
      simp [cut, hall, eq_comm]
    | some n => simp [cut, eq_comm]

end Window

/-! ## Rows in their order -/

theorem mem_liveItems : r ∈ liveItems s ↔ r ∈ s.items ∧ r.deleted = false := by
  simp [liveItems, List.mem_filter]

theorem Numbered.pairwise_id (h : Numbered s) : s.items.Pairwise fun r q => r.id < q.id := by
  have hids : (s.items.map (·.id)).Pairwise (· < ·) := by
    rw [h]
    exact List.pairwise_lt_range'
  exact List.pairwise_map.1 hids

theorem eq_of_itemId?_idText {n k : Nat} (h : itemId? (idText n) = some k) : k = n := by
  obtain ⟨m, hm, rfl⟩ := Option.map_eq_some_iff.1 h
  obtain ⟨hread, -⟩ := Option.filter_eq_some_iff.1 hm
  rw [idText, Scalar.trim_toDigits] at hread
  obtain ⟨hdigits, -⟩ := Option.filter_eq_some_iff.1 hread
  rw [String.toList_ofList, Decimal.readInt?_toDigits] at hdigits
  obtain rfl := Option.some.inj hdigits
  exact Int.toNat_natCast n

theorem idText_injective : Function.Injective idText := fun _ _ h =>
  Decimal.toDigits_injective (String.ofList_injective h)

/-! ## Loading and listing -/

/-- Every live item can be loaded. -/
def AllReadable (s : Store) : Prop :=
  ∀ r ∈ liveItems s, ∃ w, (loadItem (idText r.id)).runOn s = (.ok w, s)

theorem ReadOnly.succeeds_iff {α : Type} {a : Action α} (h : ReadOnly a) :
    succeeds a s = true ↔ ∃ x, a.runOn s = (.ok x, s) := by
  have hstore : (a.runOn s).2 = s := h s
  rw [succeeds]
  rcases ha : a.runOn s with ⟨e | x, s'⟩
  · simp [Except.toBool]
  · rw [ha] at hstore
    simpa [Except.toBool] using hstore

instance : Decidable (AllReadable s) :=
  decidable_of_iff (∀ r ∈ liveItems s, succeeds (loadItem (idText r.id)) s = true)
    (forall₂_congr fun _ _ => ReadOnly.succeeds_iff (readOnly_loadItem _))

theorem show_eq_ok {t : ItemType} : ItemRow.show t r = .ok w ↔
    ∃ held fields, ItemRow.readFields r = .ok held ∧ t.fields.toWire held = .ok fields ∧
      w = ⟨idText r.id, r.typeName, r.version, fields, some r.created, some r.updated⟩ := by
  simp only [ItemRow.show, bind_eq_ok, pure, Except.pure, Except.ok.injEq]
  constructor
  · intro h
    obtain ⟨held, hheld, fields, hfields, rfl⟩ := h
    exact ⟨held, fields, hheld, hfields, rfl⟩
  · intro h
    obtain ⟨held, fields, hheld, hfields, rfl⟩ := h
    exact ⟨held, hheld, fields, hfields, rfl⟩

/-- A live item that can be loaded is listed as it is loaded, by way of the type that it names. -/
theorem listed_of_loadItem (hs : Numbered s) (hr : r ∈ liveItems s)
    (hload : (loadItem (idText r.id)).runOn s = (.ok w, s)) :
    showListed s r = .ok w ∧ w.id = idText r.id ∧ ∃ held, ItemRow.readFields r = .ok held := by
  obtain ⟨-, k, q, t, hid, hlive, ht, hshow⟩ := loadItem_runOn_eq_ok.1 hload
  obtain ⟨hq, hqid, -, hreadable⟩ := live_of_findLive hlive
  obtain rfl : k = r.id := eq_of_itemId?_idText hid
  obtain rfl : q = r := hs.eq_of_id hq (mem_liveItems.1 hr).1 hqid
  obtain ⟨held, fields, hheld, -, rfl⟩ := show_eq_ok.1 hshow
  refine ⟨?_, rfl, held, hheld⟩
  rw [showListed, hreadable, storedType_eq_ok.2 ht]
  exact hshow

/-! ## Selected rows -/

/-- The filter is true of what the row holds. -/
def meets (f : Filter) (r : ItemRow) : Bool :=
  match ItemRow.readFields r with
  | .ok held => f.truth (fieldValue held) = .yes
  | .error _ => false

theorem meets_iff : meets f r = true ↔
    ∃ held, ItemRow.readFields r = .ok held ∧ f.truth (fieldValue held) = .yes := by
  unfold meets
  cases ItemRow.readFields r with
  | error e => simp
  | ok held => simp

/-- The live items of which a filter is true. -/
def matching (f : Filter) (s : Store) : List ItemRow := (liveItems s).filter (meets f)

theorem mem_matching : r ∈ matching f s ↔ r ∈ s.items ∧ r.deleted = false ∧
    ∃ held, ItemRow.readFields r = .ok held ∧ f.truth (fieldValue held) = .yes := by
  rw [matching, List.mem_filter, mem_liveItems, meets_iff, and_assoc]

/-- Looking at the path of a field that the filter names gives the stored value of that field, in
every live item. -/
def Extracts (f : Filter) (s : Store) : Prop :=
  ∀ r ∈ liveItems s, ∀ held, ItemRow.readFields r = .ok held → ∀ field ∈ f.fields,
    Stored.lookAt r.fieldsText (.text (pathText field)) = .ok (fieldValue held field)

instance : Decidable (Extracts f s) :=
  decidable_of_iff (∀ r ∈ liveItems s, ∀ held ∈ (ItemRow.readFields r).toOption,
      ∀ field ∈ f.fields,
        Stored.lookAt r.fieldsText (.text (pathText field)) = .ok (fieldValue held field)) <| by
    refine forall₂_congr fun r _ => forall_congr' fun held => ?_
    cases ItemRow.readFields r <;> simp [Except.toOption, eq_comm]

/-- This is one eleventh where items are selected, and not where they are shown. -/
example : ¬ Extracts (.isNull "x") { items :=
    [⟨1, "t", 0, "\x7b\"x\":0.09090909090909091\x7d", false, 0, 0, none⟩] } := by
  decide +kernel

theorem selects_compiled (hcompiled : f.toPredicate [] = (.ok p, params))
    (hlook : ∀ field ∈ f.fields,
      Stored.lookAt r.fieldsText (.text (pathText field)) = .ok (fieldValue held field)) :
    selects p params r = .ok (f.truth (fieldValue held) = .yes) := by
  rw [selects, Filter.settles_compiled hcompiled hlook]
  rfl

theorem selected_eq_filter {keep : ItemRow → Bool} {rows : List ItemRow}
    (h : ∀ r ∈ rows, selects p params r = .ok (keep r)) :
    selected p params rows = .ok (rows.filter keep) := by
  induction rows with
  | nil => rfl
  | cons r rows ih =>
    obtain ⟨hfirst, hrest⟩ := List.forall_mem_cons.1 h
    rw [selected, hfirst, ok_bind, ih hrest, ok_bind, List.filter_cons]
    rfl

/-- Both statements of a list find the live items of which the filter is true. -/
theorem selected_liveItems (hs : Numbered s) (hread : AllReadable s)
    (hcompiled : f.toPredicate [] = (.ok p, params)) (hlook : Extracts f s) :
    selected p params (liveItems s) = .ok (matching f s) := by
  refine selected_eq_filter fun r hr => ?_
  obtain ⟨w, hload⟩ := hread r hr
  obtain ⟨-, -, held, hheld⟩ := listed_of_loadItem hs hr hload
  rw [selects_compiled hcompiled (hlook r hr held hheld), meets, hheld]

/-! ## The condition -/

/-- A row as an expression is read against, with the values bound to the places. -/
structure Represents (row : Sql.Row) (params : List Datum) (r : ItemRow) : Prop where
  place : ∀ k, row.place k = bound params k
  deleted : row.column ["w", "deleted_at_us"] = .null ↔ r.deleted = false
  extract : ∀ path,
    row.extract (row.column ["w", "fields_json"]) path = Stored.extractAt r.fieldsText path

theorem extractAt_of_lookAt {text : String} {path d : Datum} (h : Stored.lookAt text path = .ok d) :
    Stored.extractAt text path = d := by
  unfold Stored.lookAt at h
  split at h
  · cases h
  · exact Except.ok.inj h

/-- The condition of a list is true of the live items of which the filter is true. -/
theorem exists_read_condition (hs : Numbered s) (hread : AllReadable s)
    (hcompiled : f.toPredicate [] = (.ok p, params)) (hlook : Extracts f s) :
    ∃ e, Sql.read p.condition = some e ∧ ∀ r ∈ s.items, ∀ row, Represents row params r →
      (e.value row = .int 1 ↔ r ∈ matching f s) := by
  have hjoins : p.Joins := (Filter.compiles_of_toPredicate hcompiled).joins
  refine ⟨_, Predicate.read_condition hjoins, fun r hr row hrow => ?_⟩
  rw [Predicate.value_condition hjoins hrow.place hrow.extract, hrow.deleted, matching,
    List.mem_filter, mem_liveItems, and_iff_right hr]
  refine and_congr_right fun hlive => ?_
  -- Only a live row has to hold what can be read.
  obtain ⟨w, hload⟩ := hread r (mem_liveItems.2 ⟨hr, hlive⟩)
  obtain ⟨-, -, held, hheld⟩ := listed_of_loadItem hs (mem_liveItems.2 ⟨hr, hlive⟩) hload
  have hextract : ∀ field ∈ f.fields,
      Stored.extractAt r.fieldsText (.text (pathText field)) = fieldValue held field :=
    fun field hfield =>
      extractAt_of_lookAt (hlook r (mem_liveItems.2 ⟨hr, hlive⟩) held hheld field hfield)
  rw [Filter.truth_compiled hcompiled hextract, meets, hheld]
  simp

/-! ## Lists -/

theorem listItems_runOn_eq_ok {s' : Store} {ws : List WorkItem} {n : Nat} :
    (listItems f offset limit).runOn s = (.ok (ws, n), s') ↔
      s = s' ∧ ∃ p params rows, f.toPredicate [] = (.ok p, params) ∧
        selected p params (liveItems s) = .ok rows ∧ n = rows.length ∧ InRange limit ∧
        (limit = some 0 ∨ InRange offset) ∧
        List.Forall₂ (fun r w => showListed s r = .ok w) (cut offset limit rows) ws := by
  rw [listItems, get_bind_runOn]
  rcases hcompiled : f.toPredicate [] with ⟨e | p, params⟩
  · simp
  simp only [Prod.mk.injEq, Except.ok.injEq]
  constructor
  · intro h
    obtain ⟨rows, hrows, h⟩ := ofResult_bind_runOn_eq_ok.1 h
    obtain ⟨found, hwindow, h⟩ := ofResult_bind_runOn_eq_ok.1 h
    obtain ⟨hlimit, hoffset, rfl⟩ := window_eq_ok.1 hwindow
    obtain ⟨ws', hshown, h⟩ := ofResult_bind_runOn_eq_ok.1 h
    cases h
    exact ⟨rfl, p, params, rows, ⟨rfl, rfl⟩, hrows, rfl, hlimit, hoffset, mapM_eq_ok.1 hshown⟩
  · intro h
    obtain ⟨rfl, _, _, rows, ⟨rfl, rfl⟩, hrows, rfl, hlimit, hoffset, hshown⟩ := h
    refine ofResult_bind_runOn_eq_ok.2 ⟨rows, hrows, ?_⟩
    refine ofResult_bind_runOn_eq_ok.2
      ⟨cut offset limit rows, window_eq_ok.2 ⟨hlimit, hoffset, rfl⟩, ?_⟩
    exact ofResult_bind_runOn_eq_ok.2 ⟨ws, mapM_eq_ok.2 hshown, rfl⟩

/-- Callers are given the same list, provided that the store takes its statements. -/
theorem listWithin_runOn_eq_ok {s' : Store} {found : List WorkItem × Nat} :
    (listWithin f offset limit).runOn s = (.ok found, s') ↔
      (∃ p params, f.toPredicate [] = (.ok p, params) ∧
        p.checkList params offset limit = .ok ()) ∧
      (listItems f offset limit).runOn s = (.ok found, s') := by
  rw [listWithin.eq_def]
  rcases f.toPredicate [] with ⟨e | p, params⟩
  · simp
  · rw [ofResult_bind_runOn_eq_ok]
    simp only [mapError_eq_ok, Prod.mk.injEq, Except.ok.injEq]
    constructor
    · rintro ⟨⟨⟩, hcheck, hlist⟩
      exact ⟨⟨p, params, ⟨rfl, rfl⟩, hcheck⟩, hlist⟩
    · rintro ⟨⟨_, _, ⟨rfl, rfl⟩, hcheck⟩, hlist⟩
      exact ⟨(), hcheck, hlist⟩

/-- The rows are shown as these items. -/
def ShownAs (s : Store) (rows : List ItemRow) (ws : List WorkItem) : Prop :=
  List.Forall₂ (fun r w => showListed s r = .ok w) rows ws

theorem listItems_eq_ok_iff {rows : List ItemRow} {ws : List WorkItem} {total : Nat}
    (hcompiled : f.toPredicate [] = (.ok p, params))
    (hselected : selected p params (liveItems s) = .ok rows) :
    (listItems f none none).runOn s = (.ok (ws, total), s) ↔
      total = rows.length ∧ ShownAs s rows ws := by
  rw [listItems_runOn_eq_ok]
  simp only [hcompiled, Prod.mk.injEq, Except.ok.injEq, true_and, and_assoc]
  constructor
  · rintro ⟨_, _, rows', rfl, rfl, hrows, rfl, -, -, hshown⟩
    obtain rfl := Except.ok.inj (hselected.symm.trans hrows)
    rw [cut_none] at hshown
    exact ⟨rfl, hshown⟩
  · rintro ⟨rfl, hshown⟩
    refine ⟨p, params, rows, rfl, rfl, hselected, rfl, by simp [InRange], by simp [InRange], ?_⟩
    rwa [cut_none]

/-- The filter that is always true lists all live items. -/
theorem listItems_all_eq_ok_iff {ws : List WorkItem} {total : Nat} :
    (listItems .all none none).runOn s = (.ok (ws, total), s) ↔
      total = (liveItems s).length ∧ ShownAs s (liveItems s) ws := by
  have hcompiled : Filter.all.toPredicate [] = (.ok (.constant true), []) := rfl
  have hselects : ∀ r ∈ liveItems s, selects (.constant true) [] r = .ok true := fun _ _ => rfl
  refine listItems_eq_ok_iff hcompiled ((selected_eq_filter hselects).trans ?_)
  rw [List.filter_true]

theorem id_of_showListed (h : showListed s r = .ok w) : w.id = idText r.id := by
  rw [showListed] at h
  split at h
  · cases h
  · obtain ⟨t, -, hshow⟩ := bind_eq_ok.1 h
    obtain ⟨_, _, -, -, rfl⟩ := show_eq_ok.1 hshow
    rfl

/-- Items of different live rows are different. -/
theorem eq_of_showListed {q : ItemRow} {w' : WorkItem} (hs : Numbered s) (hr : r ∈ liveItems s)
    (hq : q ∈ liveItems s) (hw : showListed s r = .ok w) (hw' : showListed s q = .ok w')
    (hid : w.id = w'.id) : r = q := by
  rw [id_of_showListed hw, id_of_showListed hw'] at hid
  exact hs.eq_of_id (mem_liveItems.1 hr).1 (mem_liveItems.1 hq).1 (idText_injective hid)

/-- The items are those of the rows, each as it is loaded. -/
def LoadedAs (s : Store) (rows : List ItemRow) (ws : List WorkItem) : Prop :=
  List.Forall₂ (fun r w => w.id = idText r.id ∧ (loadItem w.id).runOn s = (.ok w, s)) rows ws

theorem exists_listed (hs : Numbered s) (hread : AllReadable s) {rows : List ItemRow}
    (hrows : rows ⊆ liveItems s) :
    ∃ ws, List.Forall₂ (fun r w => showListed s r = .ok w) rows ws ∧ LoadedAs s rows ws := by
  induction rows with
  | nil => exact ⟨[], .nil, .nil⟩
  | cons r rows ih =>
    obtain ⟨hr, hrest⟩ := List.cons_subset.1 hrows
    obtain ⟨ws, hshown, hloaded⟩ := ih hrest
    obtain ⟨w, hload⟩ := hread r hr
    obtain ⟨hshow, hid, -⟩ := listed_of_loadItem hs hr hload
    rw [← hid] at hload
    exact ⟨w :: ws, .cons hshow hshown, .cons ⟨hid, hload⟩ hloaded⟩

theorem cut_subset {α : Type} (offset limit : Option Nat) (xs : List α) :
    cut offset limit xs ⊆ xs :=
  fun _ h => List.mem_of_mem_drop (List.mem_of_mem_take h)

/-- **A list is a window of the live items of which the filter is true.** -/
theorem listItems_matching (hreach : Reachable s) (hread : AllReadable s)
    (hcompiled : f.toPredicate [] = (.ok p, params)) (hlook : Extracts f s) :
    ∃ rows : List ItemRow, rows.Pairwise (fun r q => r.id < q.id) ∧
      (∀ r, r ∈ rows ↔ r ∈ s.items ∧ r.deleted = false ∧
        ∃ held, ItemRow.readFields r = .ok held ∧ f.truth (fieldValue held) = .yes) ∧
      (∃ e, Sql.read p.condition = some e ∧ ∀ r ∈ s.items, ∀ row, Represents row params r →
        (e.value row = .int 1 ↔ r ∈ rows)) ∧
      ∀ offset limit, InRange offset → InRange limit →
        ∃ ws, (listItems f offset limit).runOn s = (.ok (ws, rows.length), s) ∧
          LoadedAs s (cut offset limit rows) ws := by
  obtain ⟨ops, rfl⟩ := hreach
  have hs : Numbered (run ops empty).2 := numbered_empty.run ops
  have hselected := selected_liveItems hs hread hcompiled hlook
  refine ⟨matching f _, ?_, fun r => mem_matching, exists_read_condition hs hread hcompiled hlook,
    fun offset limit hoffset hlimit => ?_⟩
  · exact hs.pairwise_id.sublist (List.filter_sublist.trans List.filter_sublist)
  · have hlive : cut offset limit (matching f (run ops empty).2) ⊆ liveItems (run ops empty).2 :=
      List.Subset.trans (cut_subset _ _ _) List.filter_sublist.subset
    obtain ⟨ws, hshown, hloaded⟩ := exists_listed hs hread hlive
    exact ⟨ws, listItems_runOn_eq_ok.2 ⟨rfl, p, params, _, hcompiled, hselected, rfl, hlimit,
      .inr hoffset, hshown⟩, hloaded⟩

def oneNumber : FieldSet := Record.ofList [("n", ⟨false, .scalar .integer⟩)]

/-- Items of two types, of which one is deleted. -/
def mixedRun : List Operation :=
  [.createType none "t" oneNumber, .createType none "u" oneNumber,
    .createItem 0 "t" (Record.ofList [("n", .int 1)]) "u",
    .createItem 0 "u" (Record.ofList [("n", .int 5)]) "u",
    .createItem 0 "t" (Record.ofList [("n", .int 2)]) "u", .deleteItem 1 "3",
    .createItem 0 "t" (Record.ofList [("n", .int 0)]) "u",
    .createItem 0 "t" (Record.ofList [("n", .int 3)]) "u"]

/-- A filter that is true of the deleted item, too. -/
def mixedFilter : Filter :=
  .or [.compare "n" .eq (.int 1), .not (.compare "n" .lt (.int 2))]

/-- Of three items, the second by itself. -/
theorem listItems_matching_mixedRun : ∃ w,
    (listItems mixedFilter (some 1) (some 1)).runOn (run mixedRun empty).2 =
      (.ok ([w], 3), (run mixedRun empty).2) ∧
    (loadItem "2").runOn (run mixedRun empty).2 = (.ok w, (run mixedRun empty).2) := by
  have hread : AllReadable (run mixedRun empty).2 := by decide +kernel
  have hlook : Extracts mixedFilter (run mixedRun empty).2 := by decide +kernel
  have hcompiled : mixedFilter.toPredicate [] = (.ok (.or [.compare 1 .eq 2,
    .not (.compare 3 .lt 4)]), [.text "$.\"n\"", .int 1, .text "$.\"n\"", .int 2]) := rfl
  have hids :
      ((listItems mixedFilter (some 1) (some 1)).runOn (run mixedRun empty).2).1.toOption.map
        (fun found => (found.1.map (·.id), found.2)) = some (["2"], 3) := by decide +kernel
  obtain ⟨rows, -, -, -, hwindow⟩ := listItems_matching ⟨mixedRun, rfl⟩ hread hcompiled hlook
  obtain ⟨ws, hlist, hloaded⟩ := hwindow (some 1) (some 1) (by simp [InRange]) (by simp [InRange])
  rw [hlist] at hids
  simp only [Except.toOption, Option.map_some, Option.some.injEq, Prod.mk.injEq] at hids
  obtain ⟨hid, htotal⟩ := hids
  obtain ⟨w, rfl, hw⟩ : ∃ w, ws = [w] ∧ w.id = "2" := by
    simpa [List.map_eq_singleton_iff] using hid
  obtain ⟨r, -, ⟨-, hload⟩, -, -⟩ := List.forall₂_cons_right_iff.1 hloaded
  rw [htotal] at hlist
  rw [hw] at hload
  exact ⟨w, hlist, hload⟩

end Backlog.Store
