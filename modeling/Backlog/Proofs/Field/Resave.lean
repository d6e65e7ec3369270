import Backlog.Proofs.Field.Choices
import Backlog.Proofs.Field.Values

/-!
# Shown records stored again

What has been converted to storage is a stored form (`FieldSet.StoredForm`), and still is one after
it has been printed and read, as long as it can be shown.

**Main statement (`FieldSet.toStorage_shown_eq_ok`).** A stored form that is shown and stored again
is the same stored form, and storing it again fails only where an instant in it lies outside the
years of four digits.
-/

namespace Backlog

open Moment (InPlainYears)

/-! ## Scalars -/

namespace Scalar

variable {s : Scalar} {v x w y : Json}

/-- The value is what some value is stored as. -/
def StoredForm (s : Scalar) (x : Json) : Prop := ∃ v, s.toStorage v = .ok x

theorem ne_null_of_toStorage (h : s.toStorage v = .ok x) : v ≠ .null := by
  rintro rfl
  cases s <;> cases h

theorem StoredForm.reread (h : s.StoredForm x) (hy : x.reread? = some y) : s.StoredForm y := by
  obtain ⟨v, hv⟩ := h
  by_cases hs : s = .instant
  · subst hs
    obtain rfl := Stores.reread_eq (stores_of_toStorage hv) (by simp) hy
    exact ⟨v, hv⟩
  · exact ⟨y, toStorage_reread hv hs hy⟩

theorem toStorage_shown_eq_ok (h : s.StoredForm x) (hw : s.toWire x = .ok w) :
    s.toStorage w = .ok y ↔ y = x ∧ ∀ us ∈ s.storedInstants x, InPlainYears us := by
  obtain ⟨v, hv⟩ := h
  constructor
  · intro hy
    obtain rfl := eq_of_toStorage_shown hv hw hy
    exact ⟨rfl, (toStorage_shown_iff hv hw).1 hy⟩
  · intro hy
    obtain ⟨rfl, hplain⟩ := hy
    exact (toStorage_shown_iff hv hw).2 hplain

end Scalar

/-! ## Field types -/

namespace FieldType

variable {t : FieldType} {x w y : Json}

/-- The value is what some value other than `null` is stored as. -/
def StoredForm (t : FieldType) (x : Json) : Prop := ∃ v, v ≠ .null ∧ t.toStorage v = .ok x

theorem StoredForm.stores (h : t.StoredForm x) : t.Stores x := by
  obtain ⟨v, hv, hx⟩ := h
  exact stores_of_toStorage hx hv

theorem storedForm_scalar {s : Scalar} : (scalar s).StoredForm x ↔ s.StoredForm x := by
  constructor
  · intro h
    obtain ⟨v, hv, hx⟩ := h
    rw [toStorage_of_ne_null hv] at hx
    exact ⟨v, hx⟩
  · intro h
    obtain ⟨v, hx⟩ := h
    have hv := Scalar.ne_null_of_toStorage hx
    exact ⟨v, hv, by rwa [toStorage_of_ne_null hv]⟩

theorem storedForm_enum {c : Choices} :
    (enum c).StoredForm x ↔ c.base.StoredForm x ∧ c.allows x = true := by
  constructor
  · intro h
    obtain ⟨v, hv, hx⟩ := h
    rw [toStorage_of_ne_null hv] at hx
    obtain ⟨hbase, hallows⟩ := Choices.toStorage_eq_ok.1 hx
    exact ⟨⟨v, hbase⟩, hallows⟩
  · intro h
    obtain ⟨⟨v, hx⟩, hallows⟩ := h
    have hv := Scalar.ne_null_of_toStorage hx
    refine ⟨v, hv, ?_⟩
    rw [toStorage_of_ne_null hv]
    exact Choices.toStorage_eq_ok.2 ⟨hx, hallows⟩

theorem storedForm_list {s : Scalar} :
    (list s).StoredForm x ↔ ∃ xs, x = .arr xs ∧ ∀ y ∈ xs, s.StoredForm y := by
  constructor
  · intro h
    obtain ⟨v, hv, hx⟩ := h
    rw [toStorage_of_ne_null hv] at hx
    obtain ⟨vs, xs, -, rfl, hxs⟩ := convertList_eq_ok.1 hx
    refine ⟨xs, rfl, fun y hy => ?_⟩
    obtain ⟨v, -, hv⟩ := exists_of_mem_right hxs hy
    exact ⟨v, hv⟩
  · intro h
    obtain ⟨xs, rfl, hxs⟩ := h
    obtain ⟨vs, hvs⟩ := exists_forall₂ hxs
    refine ⟨.arr vs, by simp, ?_⟩
    rw [toStorage_of_ne_null (by simp)]
    exact convertList_eq_ok.2 ⟨vs, xs, rfl, rfl, List.Forall₂.flip hvs⟩

/-- What can still be shown after it has been printed and read is a stored form. -/
theorem StoredForm.reread (h : t.StoredForm x) (hy : x.reread? = some y) (hstores : t.Stores y) :
    t.StoredForm y := by
  cases t with
  | scalar s => exact storedForm_scalar.2 ((storedForm_scalar.1 h).reread hy)
  | enum c => exact storedForm_enum.2 ⟨(storedForm_enum.1 h).1.reread hy, hstores.2⟩
  | list s =>
    obtain ⟨xs, rfl, hxs⟩ := storedForm_list.1 h
    obtain ⟨ys, hys, rfl⟩ := Option.map_eq_some_iff.1 hy
    refine storedForm_list.2 ⟨ys, rfl, fun y hy => ?_⟩
    obtain ⟨x, hx, hread⟩ := Json.mem_rereadItems? hys hy
    exact (hxs x hx).reread hread

/-- A list that is shown is stored again element by element. -/
theorem forall₂_toStorage_shown {s : Scalar} {xs ws ys : List Json}
    (h : ∀ x ∈ xs, s.StoredForm x) (hw : List.Forall₂ (fun x w => s.toWire x = .ok w) xs ws) :
    List.Forall₂ (fun w y => s.toStorage w = .ok y) ws ys ↔
      ys = xs ∧ ∀ us ∈ xs.flatMap s.storedInstants, InPlainYears us := by
  induction hw generalizing ys with
  | nil => simp
  | @cons x w xs ws hxw _ ih =>
    obtain ⟨hx, hxs⟩ := List.forall_mem_cons.1 h
    rw [List.forall₂_cons_left_iff, List.flatMap_cons]
    simp only [Scalar.toStorage_shown_eq_ok hx hxw, ih hxs, List.mem_append, or_imp, forall_and]
    constructor
    · intro hys
      obtain ⟨y, ys, ⟨rfl, hfirst⟩, ⟨rfl, hrest⟩, rfl⟩ := hys
      exact ⟨rfl, hfirst, hrest⟩
    · intro hys
      obtain ⟨rfl, hfirst, hrest⟩ := hys
      exact ⟨x, xs, ⟨rfl, hfirst⟩, ⟨rfl, hrest⟩, rfl⟩

/-- What is shown of a stored form is stored as the same form or, with an instant outside the years
of four digits, not at all. -/
theorem toStorage_shown_eq_ok (h : t.StoredForm x) (hw : t.toWire x = .ok w) :
    t.toStorage w = .ok y ↔ y = x ∧ ∀ us ∈ t.storedInstants x, InPlainYears us := by
  obtain ⟨w', hw', hne⟩ := h.stores.toWire
  obtain rfl : w = w' := by simpa [hw] using hw'
  rw [toWire_of_ne_null h.stores.ne_null] at hw
  rw [toStorage_of_ne_null hne]
  cases t with
  | scalar s => exact Scalar.toStorage_shown_eq_ok (storedForm_scalar.1 h) hw
  | enum c =>
    obtain ⟨hbase, hallows⟩ := storedForm_enum.1 h
    obtain ⟨-, hw⟩ := Choices.toWire_eq_ok.1 hw
    simp only [Choices.toStorage_eq_ok, Scalar.toStorage_shown_eq_ok hbase hw, storedInstants]
    constructor
    · intro hy
      exact hy.1
    · intro hy
      exact ⟨hy, hy.1 ▸ hallows⟩
  | list s =>
    obtain ⟨xs, rfl, hxs⟩ := storedForm_list.1 h
    obtain ⟨_, ws, ⟨⟩, rfl, hws⟩ := convertList_eq_ok.1 hw
    simp only [convertList_eq_ok, Json.arr.injEq, exists_and_left, exists_eq_left',
      forall₂_toStorage_shown hxs hws, storedInstants]
    constructor
    · intro hy
      obtain ⟨_, rfl, rfl, hplain⟩ := hy
      exact ⟨rfl, hplain⟩
    · intro hy
      obtain ⟨rfl, hplain⟩ := hy
      exact ⟨xs, rfl, rfl, hplain⟩

end FieldType

/-! ## Fields -/

namespace FieldDefinition

variable {d : FieldDefinition} {name : String} {value wire out : Option Json}

/-- What a declared field holds: nothing, where it may, or a stored form. -/
def StoredForm (d : FieldDefinition) : Option Json → Prop
  | none => d.required = false
  | some x => d.type.StoredForm x

/-- What a declared field is converted to, `null` being left out. -/
def Gives (d : FieldDefinition) (dir : Direction) (name : String) (value out : Option Json) :
    Prop :=
  ∃ v, d.convert dir name value = .ok v ∧ out = if v.isNull then none else some v

theorem gives_some {dir : Direction} {x : Json} (hx : x ≠ .null)
    (hne : ∀ v, d.type.convert dir x = .ok v → v ≠ .null) :
    d.Gives dir name (some x) out ↔ ∃ v, d.type.convert dir x = .ok v ∧ out = some v := by
  have hconvert : ∀ v, d.convert dir name (some x) = .ok v ↔ d.type.convert dir x = .ok v := by
    intro v
    rw [convert_eq_ok]
    simp [hx]
  simp only [Gives, hconvert]
  refine exists_congr fun v => and_congr_right fun hv => ?_
  rw [Json.isNull_eq_false.2 (hne v hv)]
  simp

theorem gives_none {dir : Direction} (h : d.required = false) :
    d.Gives dir name none out ↔ out = none := by
  simp [Gives, convert_eq_ok, h, Json.isNull]

/-- A field that is shown is stored again as what it was, or not at all. -/
theorem gives_toStorage_shown (h : d.StoredForm value) (hw : d.Gives .toWire name value wire) :
    d.Gives .toStorage name wire out ↔
      out = value ∧ ∀ x ∈ value, ∀ us ∈ d.type.storedInstants x, InPlainYears us := by
  cases value with
  | none =>
    have h : d.required = false := h
    obtain rfl := (gives_none h).1 hw
    rw [gives_none h]
    simp
  | some x =>
    have h : d.type.StoredForm x := h
    obtain ⟨w', hw', hne⟩ := h.stores.toWire
    have hshown : ∀ v, d.type.convert .toWire x = .ok v → v ≠ .null := by
      intro v hv
      obtain rfl : v = w' := by simpa [FieldType.convert, hw'] using hv.symm
      exact hne
    obtain ⟨w, hshow, rfl⟩ := (gives_some h.stores.ne_null hshown).1 hw
    have hback : ∀ v, d.type.convert .toStorage w = .ok v ↔
        v = x ∧ ∀ us ∈ d.type.storedInstants x, InPlainYears us := fun v =>
      FieldType.toStorage_shown_eq_ok h hshow
    have hkept : ∀ v, d.type.convert .toStorage w = .ok v → v ≠ .null := by
      intro v hv
      rw [((hback v).1 hv).1]
      exact h.stores.ne_null
    rw [gives_some (hshown w hshow) hkept]
    simp only [hback, Option.mem_def, Option.some.injEq, forall_eq']
    constructor
    · intro hv
      obtain ⟨_, ⟨rfl, hplain⟩, rfl⟩ := hv
      exact ⟨rfl, hplain⟩
    · intro hv
      obtain ⟨rfl, hplain⟩ := hv
      exact ⟨x, ⟨rfl, hplain⟩, rfl⟩

end FieldDefinition

/-! ## Records -/

namespace FieldSet

variable {fs : FieldSet} {input stored held wire out : Record Json} {name : String}

/-- Every declared field holds nothing, where it may, or a stored form. -/
def StoredForm (fs : FieldSet) (held : Record Json) : Prop :=
  ∀ name d, fs.find? name = some d → d.StoredForm (held.find? name)

/-- No instant in a declared field lies outside the years of four digits. -/
def InPlainYears (fs : FieldSet) (held : Record Json) : Prop :=
  ∀ name d x, fs.find? name = some d → held.find? name = some x →
    ∀ us ∈ d.type.storedInstants x, Moment.InPlainYears us

theorem convert_eq_ok_iff_gives {dir : Direction} : fs.convert dir input = .ok out ↔
    (∀ name d, fs.find? name = some d → d.Gives dir name (input.find? name) (out.find? name)) ∧
      ∀ name, fs.find? name = none → out.find? name = input.find? name := by
  rw [convert_eq_ok, Converts]
  constructor
  · intro h
    refine ⟨fun name d hd => ?_, fun name hd => ?_⟩
    · have hname := h name
      simp only [hd] at hname
      exact hname
    · have hname := h name
      simp only [hd] at hname
      exact hname
  · intro h name
    cases hd : fs.find? name with
    | none => exact h.2 name hd
    | some d => exact h.1 name d hd

theorem storedForm_of_toStorage (h : fs.toStorage input = .ok stored) : fs.StoredForm stored := by
  intro name d hd
  obtain ⟨v, hv, hstored⟩ := (convert_eq_ok_iff_gives.1 h).1 name d hd
  rw [hstored]
  rcases FieldDefinition.convert_eq_ok.1 hv with ⟨-, hoptional, rfl⟩ | ⟨x, -, hx, hconvert⟩
  · exact hoptional
  · rw [Json.isNull_eq_false.2 (FieldType.stores_of_toStorage hconvert hx).ne_null]
    exact ⟨x, hx, hconvert⟩

theorem StoredForm.keeps (h : fs.StoredForm held) : fs.Keeps held := by
  intro name d hd
  have hname := h name d hd
  cases hv : held.find? name with
  | none =>
    rw [hv] at hname
    exact hname
  | some x =>
    rw [hv] at hname
    exact FieldType.StoredForm.stores hname

/-- A stored form that can be shown after it has been printed and read still is one. -/
theorem StoredForm.reread (h : fs.StoredForm stored) (hread : stored.Rereads held)
    (hwire : fs.toWire held = .ok wire) : fs.StoredForm held := by
  have hkeeps := h.keeps.reread hread ((h.keeps.toWire_reread_iff hread).1 ⟨wire, hwire⟩)
  intro name d hd
  have hname := h name d hd
  have hstores := hkeeps name d hd
  have hfind := hread.find? name
  cases hv : stored.find? name with
  | none =>
    rw [hv] at hname hfind
    rw [hfind]
    exact hname
  | some x =>
    obtain ⟨y, hy, hheld⟩ := hread.exists_reread hv
    rw [hv] at hname
    rw [hheld] at hstores ⊢
    exact FieldType.StoredForm.reread hname hy hstores

/-- A record that is shown is stored again as the same record or, with an instant outside the years
of four digits, not at all. -/
theorem toStorage_shown_eq_ok (h : fs.StoredForm held) (hw : fs.toWire held = .ok wire) :
    fs.toStorage wire = .ok out ↔ out = held ∧ fs.InPlainYears held := by
  obtain ⟨hdeclared, hother⟩ := convert_eq_ok_iff_gives.1 hw
  have hfield : ∀ name d, fs.find? name = some d →
      (d.Gives .toStorage name (wire.find? name) (out.find? name) ↔
        out.find? name = held.find? name ∧
          ∀ x ∈ held.find? name, ∀ us ∈ d.type.storedInstants x, Moment.InPlainYears us) :=
    fun name d hd => FieldDefinition.gives_toStorage_shown (h name d hd) (hdeclared name d hd)
  rw [toStorage, convert_eq_ok_iff_gives]
  constructor
  · intro hout
    refine ⟨Record.ext_find? fun name => ?_, fun name d x hd hx => ?_⟩
    · cases hd : fs.find? name with
      | none => rw [hout.2 name hd, hother name hd]
      | some d => exact ((hfield name d hd).1 (hout.1 name d hd)).1
    · exact ((hfield name d hd).1 (hout.1 name d hd)).2 x hx
  · intro hout
    obtain ⟨rfl, hplain⟩ := hout
    refine ⟨fun name d hd => ?_, fun name hd => (hother name hd).symm⟩
    exact (hfield name d hd).2 ⟨rfl, fun x hx => hplain name d x hd hx⟩

/-! ## A field taken away -/

theorem StoredForm.erase (h : fs.StoredForm held)
    (hoptional : ∀ d, fs.find? name = some d → d.required = false) :
    fs.StoredForm (held.erase name) := by
  intro other d hd
  rw [Record.find?_erase]
  split
  next hsame =>
    subst hsame
    exact hoptional d hd
  next => exact h other d hd

/-- What is left can be shown exactly if the field that was taken away is not required. -/
theorem exists_toWire_erase_iff (h : fs.StoredForm held) :
    (∃ w, fs.toWire (held.erase name) = .ok w) ↔
      ∀ d, fs.find? name = some d → d.required = false := by
  constructor
  · intro hwire d hd
    obtain ⟨v, hv⟩ := exists_toWire_iff.1 hwire name d hd
    rw [Record.find?_erase, if_pos rfl] at hv
    rcases FieldDefinition.convert_eq_ok.1 hv with ⟨-, hoptional, -⟩ | ⟨x, hx, -⟩
    · exact hoptional
    · cases hx
  · intro hoptional
    exact (h.erase hoptional).keeps.toWire

end FieldSet

end Backlog
