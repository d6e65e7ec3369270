import Backlog.Proofs.Store.Readable
import Backlog.Proofs.Store.Versions

/-!
# Items that are saved as they were loaded

**Main statement (`resave_iff`).** An item that has been loaded is saved again unchanged, or loses
its assignee, exactly if none of the instants that are written again lies outside the years of four
digits, the version is not the greatest, and no assignee is required where it is taken away. Saving
it gives what loading gave, under the next version.

**The gap** (`exists_item_not_resaved`): an instant that an offset carries into the year 10000 is
stored and shown, and what is shown is refused.
-/

namespace Backlog

/-- Taking an entry away does not nest a record deeper. -/
theorem Record.depth_erase_le (r : Record Json) (name : String) :
    (Json.ofRecord (r.erase name)).depth ≤ (Json.ofRecord r).depth := by
  have hmembers : Json.depth.depthMembers (r.erase name).entries ≤
      Json.depth.depthMembers r.entries := by
    refine Json.depthMembers_le_iff.2 fun m hm => ?_
    exact Json.depthMembers_le_iff.1 (Nat.le_refl _) m (List.mem_filter.1 hm).1
  rw [Json.ofRecord, Json.ofRecord, Json.depth, Json.depth]
  omega

namespace Store

open Store.Action

variable {s s' : Store} {k : Nat} {r : ItemRow} {t : ItemType} {w w' : WorkItem}
  {held wire stored shown : Record Json} {text id : String} {now : Int}

/-! ## Ids and versions -/

/-- The text of an id is read as the id. -/
theorem itemId?_idText (h : itemId? id = some k) : itemId? (idText k) = some k := by
  obtain ⟨n, hn, rfl⟩ := Option.map_eq_some_iff.1 h
  obtain ⟨hread, hpos⟩ := Option.filter_eq_some_iff.1 hn
  obtain ⟨-, hfits⟩ := Option.filter_eq_some_iff.1 hread
  have hpos : 0 < n := by simpa using hpos
  have hfits : Decimal.IsInt64 n := by simpa using hfits
  have hlt : n.toNat < 9223372036854775808 := by
    unfold Decimal.IsInt64 at hfits
    omega
  have hback : ((n.toNat : Nat) : Int) = n := Int.toNat_of_nonneg (by omega)
  rw [itemId?, idText, Scalar.trim_toDigits, Decimal.readInt64?_toDigits hlt, hback,
    Option.filter_some, if_pos (by simpa using hpos), Option.map_some]

/-- Versions start from zero. -/
theorem version_nonneg {ops : List Operation} (hr : r ∈ (run ops empty).2.items) :
    0 ≤ r.version := by
  rcases after_runs numbered_empty ops hr with ⟨q, hq, -⟩ | ⟨hversion, -⟩
  · cases hq
  · rw [hversion]
    exact Int.natCast_nonneg _

theorem nextVersion_nonneg_iff {v : Int} (h : 0 ≤ v) :
    0 ≤ nextVersion v ↔ v ≠ 9223372036854775807 := by
  unfold nextVersion
  split <;> omega

/-! ## Writing what was shown -/

/-- What is shown of a stored form is written again as it was, if no instant in it lies outside the
years of four digits. -/
theorem written_shown_iff (hform : t.fields.StoredForm held)
    (hwire : t.fields.toWire held = .ok wire)
    (hdepth : (Json.ofRecord held).depth ≤ Stored.depthLimit) :
    (t.fields.toStorage wire = .ok stored ∧ storedText stored = .ok text ∧
        t.fields.toWire stored = .ok shown) ↔
      t.fields.InPlainYears held ∧ stored = held ∧ text = (Json.ofRecord held).text ∧
        shown = wire := by
  rw [FieldSet.toStorage_shown_eq_ok hform hwire]
  constructor
  · intro h
    obtain ⟨⟨rfl, hplain⟩, htext, hshown⟩ := h
    exact ⟨hplain, rfl, (storedText_eq_ok.1 htext).2, by simpa [hwire] using hshown.symm⟩
  · intro h
    obtain ⟨hplain, rfl, rfl, rfl⟩ := h
    exact ⟨⟨rfl, hplain⟩, storedText_eq_ok.2 ⟨hdepth, rfl⟩, hwire⟩

/-- The second item is the first under the next version. -/
structure Follows (w w' : WorkItem) : Prop where
  id : w'.id = w.id
  typeName : w'.typeName = w.typeName
  fields : w'.fields = w.fields
  version : w'.version = w.version + 1

/-- A row that has been shown: what it holds is a stored form, which does not nest too deep to be
written again. -/
structure Shown (s : Store) (k : Nat) (r : ItemRow) (t : ItemType) (held : Record Json)
    (w : WorkItem) : Prop where
  live : findLive k s = .ok (some r)
  type : findType r.typeName s = .ok (some t)
  read : ItemRow.readFields r = .ok held
  form : t.fields.StoredForm held
  depth : (Json.ofRecord held).depth ≤ Stored.depthLimit
  wire : t.fields.toWire held = .ok w.fields
  id : w.id = idText k
  typeName : w.typeName = r.typeName
  version : w.version = r.version
  nonneg : 0 ≤ r.version

theorem shown_of_loadItem {ops : List Operation} (hops : ∀ op ∈ ops, op.WellFormed)
    (hs : (run ops empty).2 = s) (hload : (loadItem id).runOn s = (.ok w, s)) :
    ∃ k r t held, itemId? id = some k ∧ Shown s k r t held w := by
  subst hs
  obtain ⟨-, k, r, t, hid, hlive, ht, hshow⟩ := loadItem_runOn_eq_ok.1 hload
  obtain ⟨held, hread, hshow⟩ := bind_eq_ok.1 hshow
  obtain ⟨wire, hwire, hshow⟩ := bind_eq_ok.1 hshow
  cases hshow
  obtain ⟨hr, rfl, -⟩ := live_of_findLive hlive
  obtain ⟨t', stored, hkept, hform, -⟩ := AllConverted.run hops r hr
  obtain rfl : t' = t := by simpa [ht] using hkept.1.symm
  obtain ⟨hdepth, hrereads⟩ := (readFields_eq_ok hkept).1 hread
  refine ⟨r.id, r, t', held, hid, hlive, ht, hread, hform.reread hrereads hwire, ?_, hwire, rfl,
    rfl, rfl, version_nonneg hr⟩
  have hsame : (Json.ofRecord held).depth = (Json.ofRecord stored).depth :=
    congrArg (1 + ·) (Json.depthMembers_of_reread hrereads)
  rw [hsame]
  exact Nat.le_trans hdepth (by decide)

namespace Shown

variable (h : Shown s k r t held w)

include h

theorem type_name : t.name = w.typeName := by
  rw [name_of_findType h.type, h.typeName]

theorem nonneg_nextVersion_iff :
    0 ≤ nextVersion r.version ↔ w.version ≠ 9223372036854775807 := by
  rw [nextVersion_nonneg_iff h.nonneg, h.version]

/-- The item is saved as it was shown exactly if no instant in it lies outside the years of four
digits and there is a next version. -/
theorem saveItem_runOn_eq_ok (hid : itemId? w.id = some k) :
    (saveItem .own now true w).runOn s = (.ok w', s') ↔
      t.fields.InPlainYears held ∧ w.version ≠ 9223372036854775807 ∧
        w' = ⟨idText k, t.name, nextVersion r.version, w.fields, some r.created, some now⟩ ∧
        s' = mapItem k (ItemRow.written t.name (nextVersion r.version) (Json.ofRecord held).text now)
          s := by
  rw [Store.saveItem_runOn_eq_ok]
  constructor
  · intro hsaved
    obtain ⟨k', r', t', stored, text, shown, hid', hlive, -, ht, hstored, hversion, htext, hshown,
      rfl, rfl⟩ := hsaved
    obtain rfl : k = k' := by simpa [hid] using hid'
    obtain rfl : r = r' := by simpa [h.live] using hlive
    obtain rfl : t = t' := by simpa [h.typeName, h.type] using ht
    obtain ⟨hplain, rfl, rfl, rfl⟩ :=
      (written_shown_iff h.form h.wire h.depth).1 ⟨hstored, htext, hshown⟩
    exact ⟨hplain, h.nonneg_nextVersion_iff.1 hversion, rfl, rfl⟩
  · intro hplain
    obtain ⟨hplain, hversion, rfl, rfl⟩ := hplain
    obtain ⟨hstored, htext, hshown⟩ :=
      (written_shown_iff h.form h.wire h.depth).2 ⟨hplain, rfl, rfl, rfl⟩
    exact ⟨k, r, t, held, _, w.fields, hid, h.live, fun _ => h.version.symm, by
      rw [h.typeName, h.type], hstored, h.nonneg_nextVersion_iff.2 hversion, htext, hshown, rfl,
      rfl⟩

/-- The assignee is taken away exactly if none is required, no instant in what is left lies outside
the years of four digits and there is a next version. -/
theorem exists_assignItem_iff (hid : itemId? id = some k) :
    (∃ w' s', (assignItem .own now id (String.ofList (Json.intChars w.version)) none).runOn s =
        (.ok w', s')) ↔
      (∀ d, t.fields.find? WorkItem.assigneeField = some d → d.required = false) ∧
        t.fields.InPlainYears (held.erase WorkItem.assigneeField) ∧
        w.version ≠ 9223372036854775807 := by
  have hdepth := Nat.le_trans (held.depth_erase_le WorkItem.assigneeField) h.depth
  simp only [assignItem_runOn_eq_ok]
  constructor
  · intro hassigned
    obtain ⟨w', s', k', r', t', held', edited, wire, stored, text, shown, hid', hlive, -, hread,
      hedit, ht, hwire, hstored, hversion, htext, hshown, -⟩ := hassigned
    obtain rfl : k = k' := by simpa [hid] using hid'
    obtain rfl : r = r' := by simpa [h.live] using hlive
    obtain rfl : t = t' := by simpa [h.type] using ht
    obtain rfl : held = held' := by simpa [h.read] using hread
    obtain rfl : held.erase WorkItem.assigneeField = edited := by
      cases hedit
      rfl
    have hoptional := (FieldSet.exists_toWire_erase_iff h.form).1 ⟨wire, hwire⟩
    obtain ⟨hplain, -⟩ :=
      (written_shown_iff (h.form.erase hoptional) hwire hdepth).1 ⟨hstored, htext, hshown⟩
    exact ⟨hoptional, hplain, h.nonneg_nextVersion_iff.1 hversion⟩
  · intro hassigned
    obtain ⟨hoptional, hplain, hversion⟩ := hassigned
    obtain ⟨wire, hwire⟩ := (FieldSet.exists_toWire_erase_iff h.form).2 hoptional
    obtain ⟨hstored, htext, hshown⟩ :=
      (written_shown_iff (h.form.erase hoptional) hwire hdepth).2 ⟨hplain, rfl, rfl, rfl⟩
    exact ⟨_, _, k, r, t, held, _, wire, _, _, wire, hid, h.live, by rw [h.version], h.read, rfl,
      h.type, hwire, hstored, h.nonneg_nextVersion_iff.2 hversion, htext, hshown, rfl, rfl⟩

end Shown

/-- **Items are saved as they were loaded, but for late instants.** After every run, an item that
can be loaded is saved unchanged exactly if no instant in it lies outside the years of four digits
and its version is not the greatest; it then has the fields that were loaded, under the next
version. Its assignee is taken away exactly if that holds of the rest and none is required. -/
theorem resave_iff {ops : List Operation} (hops : ∀ op ∈ ops, op.WellFormed)
    (hs : (run ops empty).2 = s) (hload : (loadItem id).runOn s = (.ok w, s)) (now : Int) :
    ∃ k r t held, itemId? id = some k ∧ Shown s k r t held w ∧
      ((∃ w' s', (saveItem .own now true w).runOn s = (.ok w', s')) ↔
        t.fields.InPlainYears held ∧ w.version ≠ 9223372036854775807) ∧
      (∀ w' s', (saveItem .own now true w).runOn s = (.ok w', s') → Follows w w') ∧
      ((∃ w' s', (assignItem .own now id (String.ofList (Json.intChars w.version)) none).runOn s =
          (.ok w', s')) ↔
        (∀ d, t.fields.find? WorkItem.assigneeField = some d → d.required = false) ∧
          t.fields.InPlainYears (held.erase WorkItem.assigneeField) ∧
          w.version ≠ 9223372036854775807) := by
  obtain ⟨k, r, t, held, hid, h⟩ := shown_of_loadItem hops hs hload
  have hown : itemId? w.id = some k := by
    rw [h.id]
    exact itemId?_idText hid
  refine ⟨k, r, t, held, hid, h, ?_, ?_, h.exists_assignItem_iff hid⟩
  · simp only [h.saveItem_runOn_eq_ok hown]
    constructor
    · intro hsaved
      obtain ⟨_, _, hplain, hversion, -⟩ := hsaved
      exact ⟨hplain, hversion⟩
    · intro hplain
      exact ⟨_, _, hplain.1, hplain.2, rfl, rfl⟩
  · intro w' s' hsaved
    obtain ⟨-, hversion, rfl, -⟩ := (h.saveItem_runOn_eq_ok hown).1 hsaved
    refine ⟨h.id.symm, h.type_name, rfl, ?_⟩
    show nextVersion r.version = w.version + 1
    rw [nextVersion_eq (h.nonneg_nextVersion_iff.2 hversion), h.version]

/-! ## The gap -/

/-- An item is made with an instant of the year 9999 that is one of the year 10000 in universal
time. -/
def lateRun : List Operation :=
  [.createType none "t" (Record.empty.insert "at" ⟨false, .scalar .instant⟩),
    .createItem 0 "t" (Record.empty.insert "at" (.str "9999-12-31T23:59:59-01:00")) "u"]

theorem wellFormed_lateRun : ∀ op ∈ lateRun, op.WellFormed := by
  intro op hop
  rcases List.mem_cons.1 hop with rfl | hop
  · trivial
  · obtain rfl := List.mem_singleton.1 hop
    exact Record.wellFormed_empty.insert "at" (v := .str "9999-12-31T23:59:59-01:00") trivial

theorem answers_lateRun :
    ((loadItem "1").runOn (run lateRun empty).2).1.toOption.map WorkItem.version = some 0 ∧
      ((do saveItem .own 1 true (← loadItem "1")).runOn (run lateRun empty).2).1.toBool = false := by
  decide +kernel

theorem exists_unsaved {v : Int}
    (hversion : ((loadItem id).runOn s).1.toOption.map WorkItem.version = some v)
    (hfails : ((do saveItem .own now true (← loadItem id)).runOn s).1.toBool = false) :
    ∃ w, (loadItem id).runOn s = (.ok w, s) ∧ w.version = v ∧
      ¬ ∃ w' s', (saveItem .own now true w).runOn s = (.ok w', s') := by
  rcases hload : (loadItem id).runOn s with ⟨e | w, s'⟩
  · rw [hload] at hversion
    cases hversion
  obtain rfl := (readOnly_loadItem id).eq_of_runOn hload
  rw [hload] at hversion
  rw [runOn_bind, hload] at hfails
  refine ⟨w, rfl, Option.some.inj hversion, ?_⟩
  rintro ⟨w', s', hsaved⟩
  simp only [hsaved] at hfails
  cases hfails

/-- The item of `lateRun` can be loaded, and what is loaded cannot be saved. -/
theorem loadItem_lateRun : ∃ w, (loadItem "1").runOn (run lateRun empty).2 =
    (.ok w, (run lateRun empty).2) ∧ w.version = 0 ∧
      ¬ ∃ w' s', (saveItem .own 1 true w).runOn (run lateRun empty).2 = (.ok w', s') :=
  exists_unsaved answers_lateRun.1 answers_lateRun.2

/-- Where the item of `lateRun` stands, an instant in it lies outside the years of four digits. -/
theorem resave_iff_lateRun : ∃ w k r t held, (loadItem "1").runOn (run lateRun empty).2 =
    (.ok w, (run lateRun empty).2) ∧ Shown (run lateRun empty).2 k r t held w ∧
      ¬ t.fields.InPlainYears held := by
  obtain ⟨w, hload, hversion, hfails⟩ := loadItem_lateRun
  obtain ⟨k, r, t, held, -, hshown, hsave, -⟩ := resave_iff wellFormed_lateRun rfl hload 1
  refine ⟨w, k, r, t, held, hload, hshown, fun hplain => hfails (hsave.2 ⟨hplain, ?_⟩)⟩
  rw [hversion]
  decide

/-- Not every item that has been loaded can be saved as it is. -/
theorem exists_item_not_resaved : ¬ ∀ ops : List Operation, (∀ op ∈ ops, op.WellFormed) →
    ∀ id w, (loadItem id).runOn (run ops empty).2 = (.ok w, (run ops empty).2) →
      ∃ w' s', (saveItem .own 1 true w).runOn (run ops empty).2 = (.ok w', s') ∧ Follows w w' := by
  intro h
  obtain ⟨w, hload, -, hfails⟩ := loadItem_lateRun
  obtain ⟨w', s', hsaved, -⟩ := h lateRun wellFormed_lateRun "1" w hload
  exact hfails ⟨w', s', hsaved⟩

end Store

end Backlog
