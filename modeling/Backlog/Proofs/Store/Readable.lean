import Backlog.Proofs.Field.Resave
import Backlog.Proofs.Store.Change

/-!
# Items stay readable, but for floating numbers

Every way to write an item ends in a conversion to storage under a registered type, and types stay
registered. So the values behind every row are kept by the row's type (`Row.Kept`), whatever changes
of type there were on the way, and they can be shown as they are.

**Main statement (`show_iff_reread`).** What a row holds is the text of those values. Reading it
back gives other floating numbers in places, and the row can be shown exactly if the values of its
enumerations are still allowed then.

**The gap** is real (`exists_unreadable_item`): an enumeration of floating numbers takes a value
whose text is read as a number that is not among those of the enumeration.
-/

namespace Backlog.Store

variable {s s' : Store} {op : Operation} {r : ItemRow}

/-! ## Well-formed arguments -/

/-- The values that a caller gives are values that have a text. -/
def Operation.WellFormed : Operation → Prop
  | createItem _ _ fields _ => fields.WellFormed
  | saveItem _ _ item => item.fields.WellFormed
  | _ => True

/-! ## Kept rows -/

/-- The row holds the text of a record that its type, a registered one, keeps. -/
def ItemRow.Kept (s : Store) (r : ItemRow) (t : ItemType) (stored : Record Json) : Prop :=
  findType r.typeName s = .ok (some t) ∧ r.fieldsText = (Json.ofRecord stored).text ∧
    stored.WellFormed ∧ t.fields.Keeps stored

/-- The row is kept, its type has converted what it holds, and that nests no deeper than a text of a
row may. -/
def ItemRow.Converted (s : Store) (r : ItemRow) (t : ItemType) (stored : Record Json) : Prop :=
  ItemRow.Kept s r t stored ∧ t.fields.StoredForm stored ∧
    (Json.ofRecord stored).depth ≤ Stored.depthLimit

/-- What every row holds has been converted. -/
def AllConverted (s : Store) : Prop := ∀ r ∈ s.items, ∃ t stored, ItemRow.Converted s r t stored

theorem allConverted_empty : AllConverted empty := by
  intro r hr
  cases hr

/-- Rows stay kept while their types stay registered. -/
theorem ItemRow.Kept.mono {t : ItemType} {stored : Record Json} (h : ItemRow.Kept s r t stored)
    (htypes : ∀ name t, findType name s = .ok (some t) → findType name s' = .ok (some t)) :
    ItemRow.Kept s' r t stored :=
  ⟨htypes _ _ h.1, h.2⟩

theorem converted_of_toStorage {t : ItemType} {name text : String} {input stored : Record Json}
    (ht : findType name s = .ok (some t)) (hinput : input.WellFormed)
    (hstored : t.fields.toStorage input = .ok stored) (htext : storedText stored = .ok text)
    (hname : r.typeName = t.name) (hfields : r.fieldsText = text) :
    ItemRow.Converted s r t stored := by
  have hwf := FieldSet.wellFormed_of_convert hstored hinput
  have hkeeps := FieldSet.keeps_of_toStorage hstored
  obtain ⟨hdepth, htext⟩ := storedText_eq_ok.1 htext
  refine ⟨⟨?_, ?_, hwf, hkeeps⟩, FieldSet.storedForm_of_toStorage hstored, hdepth⟩
  · rw [hname, name_of_findType ht]
    exact ht
  · rw [hfields]
    exact htext

/-- What a kept row holds is read exactly if it does not nest too deep and its floating numbers can
be read. -/
theorem readFields_eq_ok {t : ItemType} {stored held : Record Json}
    (h : ItemRow.Kept s r t stored) :
    ItemRow.readFields r = .ok held ↔
      (Json.ofRecord stored).depth ≤ Json.depthLimit ∧ stored.Rereads held := by
  obtain ⟨-, htext, hwf, -⟩ := h
  rw [ItemRow.readFields, mapError_eq_ok, htext, Record.decodeText_eq_ok hwf]

/-- A row that has been read and whose assignee has been changed still has well-formed values. -/
theorem wellFormed_of_assigned {t : ItemType} {stored held edited : Record Json}
    {assignee : Option String} (h : ItemRow.Kept s r t stored)
    (hread : ItemRow.readFields r = .ok held)
    (hedit : (assigned held assignee).runOn s = (.ok edited, s)) : edited.WellFormed := by
  have hheld : held.WellFormed := ((readFields_eq_ok h).1 hread).2.wellFormed h.2.2.1
  obtain ⟨-, rfl | ⟨_, _, -, -, -, rfl⟩⟩ := assigned_runOn_eq_ok hedit
  · exact hheld.erase _
  · exact hheld.insert _ (v := .str _) trivial

theorem AllConverted.mapItem {k : Nat} {f : ItemRow → ItemRow} (h : AllConverted s)
    (hf : ∀ r ∈ s.items, r.id = k → ∃ t stored, ItemRow.Converted s (f r) t stored) :
    AllConverted (mapItem k f s) := by
  intro r hr
  obtain ⟨q, hq, rfl⟩ := List.mem_map.1 hr
  by_cases hid : q.id = k
  · rw [if_pos hid]
    exact hf q hq hid
  · rw [if_neg hid]
    exact h q hq

theorem AllConverted.effect {a : Answer} (h : AllConverted s) (hop : op.WellFormed)
    (heffect : Operation.Effect s op a s') : AllConverted s' := by
  cases heffect with
  | seedTypes grows | createType grows =>
    have hitems : s'.items = s.items := by
      obtain ⟨rows, rfl⟩ := grows.exists_append
      rfl
    intro r hr
    rw [hitems] at hr
    obtain ⟨t, stored, hkept, hform⟩ := h r hr
    exact ⟨t, stored, hkept.mono fun _ _ ht => grows.findType_eq_ok ht, hform⟩
  | @createItem now typeName creator fields stored shown t text type storage printed wire =>
    intro r hr
    simp only [addItem, List.mem_append, List.mem_singleton] at hr
    rcases hr with hr | rfl
    · exact h r hr
    · have hfields : (fields.insert WorkItem.creatorField (.str creator)).WellFormed :=
        Record.WellFormed.insert hop _ trivial
      exact ⟨_, _, converted_of_toStorage type hfields storage printed rfl rfl⟩
  | saveItem id live seen type storage version printed wire =>
    exact h.mapItem fun _ _ _ => ⟨_, _, converted_of_toStorage type hop storage printed rfl rfl⟩
  | assignItem id live seen read assigned type before storage next printed after =>
    obtain ⟨t, stored, hkept, -⟩ := h _ (live_of_findLive live).1
    have hedited := wellFormed_of_assigned hkept read assigned
    have hwire := FieldSet.wellFormed_of_convert before hedited
    exact h.mapItem fun _ _ _ => ⟨_, _, converted_of_toStorage type hwire storage printed rfl rfl⟩
  | deleteItem id live => exact h.mapItem fun r hr _ => h r hr
  | looks | createIdentity | createIteration | createChild | saveIteration | moveIteration =>
    exact h

theorem AllConverted.run {ops : List Operation} (h : ∀ op ∈ ops, op.WellFormed) :
    AllConverted (run ops empty).2 :=
  run_induction ops allConverted_empty fun hop hrows => hrows.effect (h _ hop)

/-- Every row is kept. -/
theorem AllKept.run {ops : List Operation} (h : ∀ op ∈ ops, op.WellFormed) :
    ∀ r ∈ (run ops empty).2.items, ∃ t stored, ItemRow.Kept (run ops empty).2 r t stored := by
  intro r hr
  obtain ⟨t, stored, hkept, -⟩ := AllConverted.run h r hr
  exact ⟨t, stored, hkept⟩

/-! ## Reading rows -/

/-- A kept row can be shown exactly if its text can be read and the values of its enumerations of
floating numbers are still allowed. -/
theorem ItemRow.Kept.show_iff {t : ItemType} {stored : Record Json}
    (h : ItemRow.Kept s r t stored) :
    (∃ w, ItemRow.show t r = .ok w) ↔
      (Json.ofRecord stored).depth ≤ Json.depthLimit ∧
        ∃ held, stored.Rereads held ∧ t.fields.AllowsFloats held := by
  have hshow : (∃ w, ItemRow.show t r = .ok w) ↔
      ∃ held, ItemRow.readFields r = .ok held ∧ ∃ fields, t.fields.toWire held = .ok fields := by
    constructor
    · intro hshown
      obtain ⟨w, hw⟩ := hshown
      obtain ⟨held, hheld, hw⟩ := bind_eq_ok.1 hw
      obtain ⟨fields, hfields, -⟩ := bind_eq_ok.1 hw
      exact ⟨held, hheld, fields, hfields⟩
    · intro hfields
      obtain ⟨held, hheld, fields, hfields⟩ := hfields
      exact ⟨_, bind_eq_ok.2 ⟨held, hheld, bind_eq_ok.2 ⟨fields, hfields, rfl⟩⟩⟩
  rw [hshow]
  constructor
  · intro hshown
    obtain ⟨held, hheld, hwire⟩ := hshown
    obtain ⟨hdepth, hread⟩ := (readFields_eq_ok h).1 hheld
    exact ⟨hdepth, held, hread, (h.2.2.2.toWire_reread_iff hread).1 hwire⟩
  · intro hallowed
    obtain ⟨hdepth, held, hread, hallows⟩ := hallowed
    exact ⟨held, (readFields_eq_ok h).2 ⟨hdepth, hread⟩,
      (h.2.2.2.toWire_reread_iff hread).2 hallows⟩

/-- **Rows stay readable, but for floating numbers.** After every run, each row names a registered
type and holds the text of values that this type keeps and shows. What is read from the text can be
shown exactly if the text nests no deeper than is read, its floating numbers are read as some
numbers, and those of enumerations as allowed ones. -/
theorem show_iff_reread (ops : List Operation) (h : ∀ op ∈ ops, op.WellFormed) (r : ItemRow)
    (hr : r ∈ (run ops empty).2.items) :
    ∃ t stored, findType r.typeName (run ops empty).2 = .ok (some t) ∧
      r.fieldsText = (Json.ofRecord stored).text ∧ t.fields.Keeps stored ∧
      (∃ w, t.fields.toWire stored = .ok w) ∧
      ((∃ w, ItemRow.show t r = .ok w) ↔
        (Json.ofRecord stored).depth ≤ Json.depthLimit ∧
          ∃ held, stored.Rereads held ∧ t.fields.AllowsFloats held) := by
  obtain ⟨t, stored, hkept⟩ := AllKept.run h r hr
  exact ⟨t, stored, hkept.1, hkept.2.1, hkept.2.2.2, hkept.2.2.2.toWire, hkept.show_iff⟩

/-! ## The gap -/

/-- The number nearest to `10^-39`. Its text, `1e-39`, is read as the number after it. -/
def tiny : Binary64 := ⟨false, 6129982163463555, -182, by decide⟩

/-- The number after `tiny`. Its text, `1.0000000000000001e-39`, is read as `tiny`. -/
def tinyNext : Binary64 := ⟨false, 6129982163463556, -182, by decide⟩

example : tiny.reread? = some tinyNext ∧ tinyNext.reread? = some tiny := by decide +kernel

/-- The enumeration of one floating number. -/
def oneFloat (x : Binary64) : Choices where
  base := .float
  values := [.float x]
  nonempty := by simp
  distinct := List.pairwise_singleton ..
  stored := by
    intro v hv
    exact ⟨.float x, by rw [List.mem_singleton.1 hv]; rfl⟩

/-- A type is registered whose one field takes `tinyNext`, which the registry reads as `tiny`, and
an item with `tiny` in that field is made. -/
def floatRun : List Operation :=
  [.createType none "t" (Record.ofList [("x", ⟨false, .enum (oneFloat tinyNext)⟩)]),
    .createItem 0 "t" (Record.ofList [("x", .float tiny)]) "u"]

theorem wellFormed_floatRun : ∀ op ∈ floatRun, op.WellFormed := by
  intro op hop
  rcases List.mem_cons.1 hop with rfl | hop
  · trivial
  · obtain rfl := List.mem_singleton.1 hop
    exact Record.wellFormed_empty.insert "x" (v := .float tiny) trivial

/-- The item has been made, and cannot be shown. -/
theorem show_floatRun : ((run floatRun empty).2.items.map fun r =>
    match findType r.typeName (run floatRun empty).2 with
    | .ok (some t) => (ItemRow.show t r).toBool
    | _ => true) = [false] := by
  decide +kernel

theorem exists_row_floatRun : ∃ r ∈ (run floatRun empty).2.items, ∀ t,
    findType r.typeName (run floatRun empty).2 = .ok (some t) →
      ¬ ∃ w, ItemRow.show t r = .ok w := by
  have hrow : false ∈ (run floatRun empty).2.items.map fun r =>
      match findType r.typeName (run floatRun empty).2 with
      | .ok (some t) => (ItemRow.show t r).toBool
      | _ => true := by
    rw [show_floatRun]
    exact List.mem_singleton_self false
  obtain ⟨r, hr, hfalse⟩ := List.mem_map.1 hrow
  refine ⟨r, hr, ?_⟩
  rintro t ht ⟨w, hw⟩
  simp only [ht, hw, Except.toBool] at hfalse
  cases hfalse

/-- Where the item of `floatRun` stands, its enumeration no longer allows what it holds. -/
theorem show_iff_reread_floatRun : ∃ r ∈ (run floatRun empty).2.items, ∃ t stored,
    findType r.typeName (run floatRun empty).2 = .ok (some t) ∧ t.fields.Keeps stored ∧
      ¬ ((Json.ofRecord stored).depth ≤ Json.depthLimit ∧
        ∃ held, stored.Rereads held ∧ t.fields.AllowsFloats held) := by
  obtain ⟨r, hr, hhidden⟩ := exists_row_floatRun
  obtain ⟨t, stored, ht, -, hkeeps, -, hiff⟩ :=
    show_iff_reread floatRun wellFormed_floatRun r hr
  exact ⟨r, hr, t, stored, ht, hkeeps, fun h => hhidden t ht (hiff.2 h)⟩

/-- Not every item that has been made can be shown. -/
theorem exists_unreadable_item : ¬ ∀ ops : List Operation, (∀ op ∈ ops, op.WellFormed) →
    ∀ r ∈ (run ops empty).2.items, ∃ t, findType r.typeName (run ops empty).2 = .ok (some t) ∧
      ∃ w, ItemRow.show t r = .ok w := by
  intro h
  obtain ⟨r, hr, hhidden⟩ := exists_row_floatRun
  obtain ⟨t, ht, hshow⟩ := h floatRun wellFormed_floatRun r hr
  exact hhidden t ht hshow

end Backlog.Store
