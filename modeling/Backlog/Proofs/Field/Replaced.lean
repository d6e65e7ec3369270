import Backlog.Proofs.Field.Resave

/-!
# Records with one field replaced

A record that has been stored, printed and read is changed in one field: a text is set there, or
the field is taken away. Then the whole record is shown and stored again.

**Main statement (`FieldSet.toStorage_shown_replaced`).** If that goes well, the changed record is
stored as it is, and shows the field as it was set. What the other fields show does not depend on
the change (`FieldSet.find?_toWire_congr`).

The field may be declared in any way, and what it held may no longer be allowed, so the record is
looked at without it first, where it is a stored form (`FieldSet.StoredForm.reread_except`).
-/

namespace Backlog

variable {a : String} {x w y : Json}

/-! ## Texts -/

namespace Scalar

variable {s : Scalar}

/-- A text is shown as it is or not at all. -/
theorem eq_of_toWire_str (h : s.toWire (.str a) = .ok w) : w = .str a := by
  cases s with
  | string | user | url | workItem =>
    cases h
    rfl
  | integer | duration | float | instant => cases h

/-- Kinds that show texts store a text without blanks around it as it is, or not at all. -/
theorem eq_of_toStorage_str (ha : Text.trim a = a) (hw : s.toWire (.str a) = .ok w)
    (hy : s.toStorage (.str a) = .ok y) : y = .str a := by
  cases s with
  | string | user =>
    cases hy
    rfl
  | url =>
    obtain ⟨b, hb, rfl, -⟩ := urlToStorage_eq_ok.1 (show urlToStorage (.str a) = .ok y from hy)
    exact hb.symm
  | workItem =>
    simp only [toStorage, itemIdToStorage, ha] at hy
    split at hy
    · cases hy
    · cases hy
      rfl
  | integer | duration | float | instant => cases hw

end Scalar

namespace FieldType

variable {t : FieldType}

theorem eq_of_toWire_str (h : t.toWire (.str a) = .ok w) : w = .str a := by
  rw [toWire_of_ne_null (by simp)] at h
  cases t with
  | scalar s => exact Scalar.eq_of_toWire_str h
  | enum c => exact Scalar.eq_of_toWire_str (Choices.toWire_eq_ok.1 h).2
  | list s => cases h

theorem eq_of_toStorage_str (ha : Text.trim a = a) (hw : t.toWire (.str a) = .ok w)
    (hy : t.toStorage (.str a) = .ok y) : y = .str a := by
  rw [toWire_of_ne_null (by simp)] at hw
  rw [toStorage_of_ne_null (by simp)] at hy
  cases t with
  | scalar s => exact Scalar.eq_of_toStorage_str ha hw hy
  | enum c =>
    exact Scalar.eq_of_toStorage_str ha (Choices.toWire_eq_ok.1 hw).2
      (Choices.toStorage_eq_ok.1 hy).1
  | list s => cases hw

end FieldType

/-! ## The replaced field -/

/-- What a field can be replaced by: nothing, or a text without blanks around it. -/
def Json.Plain (v : Option Json) : Prop := v = none ∨ ∃ a, Text.trim a = a ∧ v = some (.str a)

namespace FieldDefinition

variable {d : FieldDefinition} {name : String} {dir : Direction} {value wire out : Option Json}

theorem gives_str : d.Gives dir name (some (.str a)) out ↔
    ∃ v, d.type.convert dir (.str a) = .ok v ∧ out = if v.isNull then none else some v := by
  simp [Gives, convert_eq_ok]

/-- The replaced field is shown as it was set and stored so again. -/
theorem eq_of_gives_plain (hvalue : Json.Plain value) (hw : d.Gives .toWire name value wire)
    (hy : d.Gives .toStorage name wire out) : wire = value ∧ out = value := by
  rcases hvalue with rfl | ⟨a, ha, rfl⟩
  · obtain ⟨v, hv, rfl⟩ := hw
    rcases convert_eq_ok.1 hv with ⟨-, hoptional, rfl⟩ | ⟨x, hx, -⟩
    · exact ⟨rfl, (gives_none hoptional).1 hy⟩
    · cases hx
  · obtain ⟨w, hshow, rfl⟩ := gives_str.1 hw
    obtain rfl := FieldType.eq_of_toWire_str hshow
    obtain ⟨y, hstore, rfl⟩ := gives_str.1 hy
    obtain rfl := FieldType.eq_of_toStorage_str ha hshow hstore
    exact ⟨rfl, rfl⟩

end FieldDefinition

/-! ## Records -/

namespace FieldSet

variable {fs : FieldSet} {stored held edited wire wire' out : Record Json} {name : String}

/-- What a field shows comes from that field alone. -/
theorem find?_toWire_congr (h : fs.toWire held = .ok wire) (h' : fs.toWire edited = .ok wire')
    (hname : held.find? name = edited.find? name) : wire.find? name = wire'.find? name := by
  obtain ⟨hdeclared, hother⟩ := convert_eq_ok_iff_gives.1 h
  obtain ⟨hdeclared', hother'⟩ := convert_eq_ok_iff_gives.1 h'
  cases hd : fs.find? name with
  | none => rw [hother name hd, hother' name hd, hname]
  | some d =>
    obtain ⟨v, hv, hout⟩ := hdeclared name d hd
    obtain ⟨v', hv', hout'⟩ := hdeclared' name d hd
    rw [hname, hv'] at hv
    cases hv
    rw [hout, hout']

/-- The other fields of a record that can be shown with one field replaced are in stored form. The
replaced one is left out of the declarations for that. -/
theorem StoredForm.reread_except (h : fs.StoredForm stored) (hread : stored.Rereads held)
    (hsame : ∀ other, other ≠ name → edited.find? other = held.find? other)
    (hwire : fs.toWire edited = .ok wire) : FieldSet.StoredForm (fs.erase name) held := by
  have hform : FieldSet.StoredForm (fs.erase name) stored := by
    intro other d hd
    rw [Record.find?_erase] at hd
    split at hd
    · cases hd
    · exact h other d hd
  obtain ⟨hdeclared, hother⟩ := convert_eq_ok_iff_gives.1 hwire
  have hshown : ∃ shown, FieldSet.toWire (fs.erase name) held = .ok shown := by
    refine exists_toWire_iff.2 fun other d hd => ?_
    rw [Record.find?_erase] at hd
    split at hd
    · cases hd
    next hne =>
      obtain ⟨v, hv, -⟩ := hdeclared other d hd
      exact ⟨v, by rwa [← hsame other (Ne.symm hne)]⟩
  obtain ⟨shown, hshown⟩ := hshown
  exact hform.reread hread hshown

/-- **A record with one field replaced is stored as it is**, if it can be shown and stored again. -/
theorem toStorage_shown_replaced (h : fs.StoredForm stored) (hread : stored.Rereads held)
    (hsame : ∀ other, other ≠ name → edited.find? other = held.find? other)
    (hplain : Json.Plain (edited.find? name)) (hwire : fs.toWire edited = .ok wire)
    (hout : fs.toStorage wire = .ok out) :
    out = edited ∧ wire.find? name = edited.find? name := by
  have hform := h.reread_except hread hsame hwire
  obtain ⟨hdeclared, hother⟩ := convert_eq_ok_iff_gives.1 hwire
  obtain ⟨hdeclared', hother'⟩ := convert_eq_ok_iff_gives.1 hout
  have hfield : wire.find? name = edited.find? name ∧ out.find? name = edited.find? name := by
    cases hd : fs.find? name with
    | none => exact ⟨hother name hd, by rw [hother' name hd, hother name hd]⟩
    | some d => exact d.eq_of_gives_plain hplain (hdeclared name d hd) (hdeclared' name d hd)
  refine ⟨Record.ext_find? fun other => ?_, hfield.1⟩
  by_cases hne : other = name
  · rw [hne, hfield.2]
  cases hd : fs.find? other with
  | none => rw [hother' other hd, hother other hd]
  | some d =>
    have hstored : d.StoredForm (edited.find? other) := by
      rw [hsame other hne]
      exact hform other d (by rw [Record.find?_erase, if_neg (Ne.symm hne), hd])
    exact ((FieldDefinition.gives_toStorage_shown hstored (hdeclared other d hd)).1
      (hdeclared' other d hd)).1

end FieldSet

end Backlog
