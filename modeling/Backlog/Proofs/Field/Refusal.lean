import Backlog.Proofs.Field.Values

/-!
# Records that are refused

A record converts field by field in the order of names, and the first field that does not convert
ends it.

**Main statement (`FieldSet.convert_decides`).** A record is refused exactly if some declared field
is (`FieldDefinition.Refuses`), and then for the field whose name comes first. Otherwise the result
has the names and the values that `FieldSet.ConvertsTo` describes. What stands under names that are
not declared decides nothing (`FieldSet.SameOutcome`).

**Null.** Only `null` converts to `null` (`FieldType.ne_null_of_convert`), so a declared field is
left out of the result only where it has no value. Values under other names are not looked at, and
stay even if they are `null`.
-/

namespace Backlog

/-! ## Values -/

theorem Scalar.ne_null_of_toWire {s : Scalar} {v x : Json} (h : s.toWire v = .ok x) :
    x ≠ .null := by
  cases s with
  | string | user | url | workItem | integer | duration | float =>
    obtain ⟨_, -, rfl⟩ := require_eq_ok.1 h
    simp
  | instant =>
    rw [toWire, instantToWire.eq_def] at h
    split at h
    · cases h
    · split at h <;> cases h
      simp

theorem FieldType.ne_null_of_convert {t : FieldType} {dir : Direction} {v x : Json}
    (h : t.convert dir v = .ok x) (hv : v ≠ .null) : x ≠ .null := by
  cases dir with
  | toStorage => exact (stores_of_toStorage h hv).ne_null
  | toWire =>
    have h : t.toWire v = .ok x := h
    rw [toWire_of_ne_null hv] at h
    cases t with
    | scalar s => exact Scalar.ne_null_of_toWire h
    | enum c => exact Scalar.ne_null_of_toWire (Choices.toWire_eq_ok.1 h).2
    | list s =>
      obtain ⟨_, _, -, rfl, -⟩ := convertList_eq_ok.1 h
      simp

/-! ## One field -/

namespace FieldDefinition

variable {d : FieldDefinition} {dir : Direction} {name : String} {value : Option Json} {e : Error}

/-- Why a field with such a value, or without one, is refused. -/
inductive Refuses (d : FieldDefinition) (dir : Direction) (name : String) :
    Option Json → Error → Prop
  | absent (required : d.required = true) : Refuses d dir name none (.requiredField name)
  | null (required : d.required = true) : Refuses d dir name (some .null) (.requiredField name)
  | rejected {v : Json} {cause : ConversionError} (present : v ≠ .null)
    (rejected : d.type.convert dir v = .error cause) :
    Refuses d dir name (some v) (.conversion name cause)

theorem convert_eq_error : d.convert dir name value = .error e ↔ d.Refuses dir name value e := by
  rw [convert.eq_def]
  apply Iff.intro
  · intro h
    split at h
    · split at h <;> cases h
      exact .absent ‹_›
    · split at h <;> cases h
      exact .null ‹_›
    next v hv =>
      cases hconvert : d.type.convert dir v with
      | ok x =>
        rw [hconvert] at h
        cases h
      | error cause =>
        rw [hconvert] at h
        cases h
        exact .rejected hv hconvert
  · intro h
    cases h with
    | absent required => simp [required]
    | null required => simp [required]
    | @rejected v cause present rejected =>
      cases v with
      | null => exact absurd rfl present
      | _ =>
        simp only [rejected]
        rfl

end FieldDefinition

/-! ## All fields -/

namespace FieldSet

variable {fs : FieldSet} {dir : Direction} {input out : Record Json} {e : Error} {name : String}

/-- Fields in the order of their names fail to convert as the first one does that fails. -/
theorem convertDeclared_eq_error {ds : List (String × FieldDefinition)}
    (hs : (ds.map Prod.fst).Pairwise (· < ·)) :
    convertDeclared dir input ds = .error e ↔
      ∃ x ∈ ds, x.2.convert dir x.1 (input.find? x.1) = .error e ∧
        ∀ y ∈ ds, ∀ e', y.2.convert dir y.1 (input.find? y.1) = .error e' → x.1 ≤ y.1 := by
  induction ds with
  | nil => simp [convertDeclared]
  | cons d ds ih =>
    rw [List.map_cons, List.pairwise_cons] at hs
    obtain ⟨hbefore, hs⟩ := hs
    have hlt : ∀ y ∈ ds, d.1 < y.1 := fun y hy => hbefore _ (List.mem_map_of_mem hy)
    rw [convertDeclared]
    cases hd : d.2.convert dir d.1 (input.find? d.1) with
    | error e' =>
      simp only [error_bind, Except.error.injEq]
      apply Iff.intro
      · intro h
        subst h
        refine ⟨d, List.mem_cons_self, hd, fun y hy _ _ => ?_⟩
        rcases List.mem_cons.1 hy with rfl | hy
        · exact String.le_refl _
        · exact String.not_lt.1 fun h => String.lt_irrefl _ (String.lt_trans h (hlt y hy))
      · intro h
        obtain ⟨x, hx, hfails, hleast⟩ := h
        rcases List.mem_cons.1 hx with rfl | hx
        · exact Except.error.inj (hd.symm.trans hfails)
        · exact absurd (hleast d List.mem_cons_self e' hd) (String.not_le.2 (hlt x hx))
    | ok v =>
      have hrest : (do
          let vs ← convertDeclared dir input ds
          return if v.isNull then vs else (d.1, v) :: vs) = Except.error e ↔
            convertDeclared dir input ds = .error e := by
        cases convertDeclared dir input ds <;> simp [pure, Except.pure]
      simp only [ok_bind, hrest, ih hs, List.exists_mem_cons_iff, List.forall_mem_cons, hd,
        reduceCtorEq, false_and, false_or, false_implies, implies_true, true_and]

/-- A declared field is refused. -/
def RefusesAt (fs : FieldSet) (dir : Direction) (input : Record Json) (name : String)
    (e : Error) : Prop :=
  ∃ d, fs.find? name = some d ∧ d.Refuses dir name (input.find? name) e

theorem convert_eq_error : fs.convert dir input = .error e ↔
    ∃ name, fs.RefusesAt dir input name e ∧
      ∀ other e', fs.RefusesAt dir input other e' → name ≤ other := by
  have hdeclared : fs.convert dir input = .error e ↔
      convertDeclared dir input fs.entries = .error e := by
    rw [convert]
    cases convertDeclared dir input fs.entries <;> simp [pure, Except.pure]
  rw [hdeclared, convertDeclared_eq_error fs.sorted]
  simp only [FieldDefinition.convert_eq_error]
  apply Iff.intro
  · intro h
    obtain ⟨⟨name, d⟩, hd, hrefuses, hleast⟩ := h
    refine ⟨name, ⟨d, Record.mem_entries_iff.1 hd, hrefuses⟩, fun other e' hother => ?_⟩
    obtain ⟨d', hd', hrefuses'⟩ := hother
    exact hleast (other, d') (Record.mem_entries_iff.2 hd') e' hrefuses'
  · intro h
    obtain ⟨name, ⟨d, hd, hrefuses⟩, hleast⟩ := h
    refine ⟨(name, d), Record.mem_entries_iff.2 hd, hrefuses, fun y hy e' hy' => ?_⟩
    exact hleast y.1 e' ⟨y.2, Record.mem_entries_iff.1 hy, hy'⟩

/-- A record converts if no declared field is refused. -/
theorem exists_convert_iff : (∃ out, fs.convert dir input = .ok out) ↔
    ∀ name e, ¬ fs.RefusesAt dir input name e := by
  apply Iff.intro
  · intro h name e hrefuses
    obtain ⟨d, hd, hrefuses⟩ := hrefuses
    obtain ⟨out, hout⟩ := h
    have hname := convert_eq_ok.1 hout name
    simp only [hd] at hname
    obtain ⟨v, hv, -⟩ := hname
    rw [FieldDefinition.convert_eq_error.2 hrefuses] at hv
    cases hv
  · intro h
    cases hconvert : fs.convert dir input with
    | ok out => exact ⟨out, rfl⟩
    | error e =>
      obtain ⟨name, hrefuses, -⟩ := convert_eq_error.1 hconvert
      exact absurd hrefuses (h name e)

/-- The names and the values of a converted record. -/
structure ConvertsTo (fs : FieldSet) (dir : Direction) (input out : Record Json) : Prop where
  names : ∀ name, name ∈ out.names ↔
    (name ∈ fs.names ∧ ∃ v, input.find? name = some v ∧ v ≠ .null) ∨
      (name ∉ fs.names ∧ name ∈ input.names)
  declared : ∀ name d v, fs.find? name = some d → input.find? name = some v → v ≠ .null →
    ∃ x, d.type.convert dir v = .ok x ∧ out.find? name = some x
  undeclared : ∀ name, name ∉ fs.names → out.find? name = input.find? name

theorem find?_eq_none_iff : fs.find? name = none ↔ name ∉ fs.names := by
  rw [Record.mem_names_iff, Bool.not_eq_true, Option.isSome_eq_false_iff, Option.isNone_iff_eq_none]

/-- A declared field is in the result if it has a value, which has been converted. -/
theorem Converts.find?_declared (h : fs.Converts dir input out) {d : FieldDefinition}
    (hd : fs.find? name = some d) {x : Json} :
    out.find? name = some x ↔
      ∃ v, input.find? name = some v ∧ v ≠ .null ∧ d.type.convert dir v = .ok x := by
  have hname := h name
  simp only [hd] at hname
  obtain ⟨y, hy, hout⟩ := hname
  rw [hout]
  rcases FieldDefinition.convert_eq_ok.1 hy with ⟨hnone, -, rfl⟩ | ⟨v, hv, hne, hconvert⟩
  · rcases hnone with hnone | hnone <;> simp [hnone, Json.isNull]
  · rw [Json.isNull_eq_false.2 (FieldType.ne_null_of_convert hconvert hne)]
    simp [hv, hne, hconvert]

theorem Converts.convertsTo (h : fs.Converts dir input out) : fs.ConvertsTo dir input out := by
  have hundeclared : ∀ name, name ∉ fs.names → out.find? name = input.find? name := by
    intro name hname
    have hkept := h name
    rwa [find?_eq_none_iff.2 hname] at hkept
  have hdeclared : ∀ name d v, fs.find? name = some d → input.find? name = some v → v ≠ .null →
      ∃ x, d.type.convert dir v = .ok x ∧ out.find? name = some x := by
    intro name d v hd hv hne
    have hname := h name
    simp only [hd] at hname
    obtain ⟨x, hx, -⟩ := hname
    rw [hv] at hx
    rcases FieldDefinition.convert_eq_ok.1 hx with ⟨hnone, -⟩ | ⟨v', hv', -, hconvert⟩
    · simp [hne] at hnone
    · obtain rfl := Option.some.inj hv'
      exact ⟨x, hconvert, (h.find?_declared hd).2 ⟨v, hv, hne, hconvert⟩⟩
  refine ⟨fun name => ?_, hdeclared, hundeclared⟩
  by_cases hname : name ∈ fs.names
  · obtain ⟨d, hd⟩ := Option.isSome_iff_exists.1 (Record.mem_names_iff.1 hname)
    simp only [hname, true_and, not_true_eq_false, false_and, or_false]
    rw [Record.mem_names_iff, Option.isSome_iff_exists]
    apply Iff.intro
    · intro hx
      obtain ⟨x, hx⟩ := hx
      obtain ⟨v, hv, hne, -⟩ := (h.find?_declared hd).1 hx
      exact ⟨v, hv, hne⟩
    · intro hv
      obtain ⟨v, hv, hne⟩ := hv
      obtain ⟨x, -, hx⟩ := hdeclared name d v hd hv hne
      exact ⟨x, hx⟩
  · simp only [hname, false_and, not_false_eq_true, true_and, false_or]
    rw [Record.mem_names_iff, hundeclared name hname, ← Record.mem_names_iff]

/-- The same error, or results that are the same in the declared fields. -/
def SameOutcome (fs : FieldSet) : (a b : Except Error (Record Json)) → Prop
  | .ok out, .ok out' => ∀ name ∈ fs.names, out.find? name = out'.find? name
  | .error e, .error e' => e = e'
  | _, _ => False

theorem refusesAt_congr {other : Record Json}
    (h : ∀ name ∈ fs.names, input.find? name = other.find? name) :
    fs.RefusesAt dir input name e ↔ fs.RefusesAt dir other name e := by
  refine exists_congr fun d => and_congr_right fun hd => ?_
  rw [h name (Record.mem_names_iff.2 (by simp [hd]))]

/-- What stands under names that are not declared decides nothing. -/
theorem sameOutcome_convert {other : Record Json}
    (h : ∀ name ∈ fs.names, input.find? name = other.find? name) :
    fs.SameOutcome (fs.convert dir input) (fs.convert dir other) := by
  cases hinput : fs.convert dir input with
  | error e =>
    have hother : fs.convert dir other = .error e := by
      rw [convert_eq_error] at hinput ⊢
      simpa only [refusesAt_congr h] using hinput
    rw [hother]
    rfl
  | ok out =>
    have hconverts : ∃ out', fs.convert dir other = .ok out' := by
      rw [exists_convert_iff]
      simpa only [refusesAt_congr h] using exists_convert_iff.1 ⟨out, hinput⟩
    obtain ⟨out', hother⟩ := hconverts
    rw [hother]
    intro name hname
    obtain ⟨d, hd⟩ := Option.isSome_iff_exists.1 (Record.mem_names_iff.1 hname)
    apply Option.ext
    intro x
    rw [(convert_eq_ok.1 hinput).find?_declared hd, (convert_eq_ok.1 hother).find?_declared hd,
      h name hname]

/-- **How the conversion of a record is decided.** It fails exactly if a declared field is refused,
with the error of the one whose name comes first. Otherwise the declared fields that have a value
are converted, and every other name keeps its value. Undeclared names decide nothing. -/
theorem convert_decides (fs : FieldSet) (dir : Direction) (input : Record Json) :
    ((∃ out, fs.convert dir input = .ok out) ↔ ∀ name e, ¬ fs.RefusesAt dir input name e) ∧
      (∀ e, fs.convert dir input = .error e ↔ ∃ name, fs.RefusesAt dir input name e ∧
        ∀ other e', fs.RefusesAt dir input other e' → name ≤ other) ∧
      (∀ out, fs.convert dir input = .ok out → fs.ConvertsTo dir input out) ∧
      ∀ other : Record Json, (∀ name ∈ fs.names, input.find? name = other.find? name) →
        fs.SameOutcome (fs.convert dir input) (fs.convert dir other) := by
  refine ⟨exists_convert_iff, fun e => convert_eq_error, fun out hout => ?_, fun other hother => ?_⟩
  · exact (convert_eq_ok.1 hout).convertsTo
  · exact sameOutcome_convert hother

/-- Two fields that have to have a value. -/
def pairSet : FieldSet :=
  (Record.empty.insert "b" ⟨true, .scalar .integer⟩).insert "a" ⟨true, .scalar .string⟩

/-- Without values the first of the fields is missed, whatever else there is. -/
theorem convert_decides_pairSet :
    (∀ name ∈ pairSet.names, (Record.empty : Record Json).find? name =
        (Record.empty.insert "0" .null).find? name) ∧
      pairSet.SameOutcome (.error (.requiredField "a"))
        (pairSet.convert .toStorage (Record.empty.insert "0" .null)) := by
  have hsame : ∀ name ∈ pairSet.names, (Record.empty : Record Json).find? name =
      (Record.empty.insert "0" .null).find? name := by decide +kernel
  have hdecides := convert_decides pairSet .toStorage .empty
  exact ⟨hsame, hdecides.2.2.2 _ hsame⟩

end FieldSet

end Backlog
