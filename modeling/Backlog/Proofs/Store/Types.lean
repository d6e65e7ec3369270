import Backlog.Proofs.Store.Action
import Backlog.Store.Types

/-!
# What the operations on types do

**Growth.** `Registers`: a store whose registry has grown at its end by new names. Nothing else
ever happens to a registry (`createType_runOn_eq_ok`, `registers_of_seedTypes`), so a type that has
been found is found from then on (`Registers.findType_eq_ok`).
-/

namespace Backlog.Store

open Store.Action

variable {s s' s'' : Store} {name : String} {t : ItemType} {scope : Scope}

/-! ## Growth of the registry -/

/-- The second store is the first with types added at the end, each under a new name and with the
text of a field set. -/
inductive Registers : Store → Store → Prop
  | refl (s : Store) : Registers s s
  | add {s s' : Store} (row : TypeRow) (fresh : ∀ r ∈ s.types, r.name ≠ row.name)
      (written : ∃ fs : FieldSet, row.fieldsText = fs.text)
      (more : Registers { s with types := s.types ++ [row] } s') : Registers s s'

theorem Registers.trans (h : Registers s s') (h' : Registers s' s'') : Registers s s'' := by
  induction h with
  | refl => exact h'
  | add row fresh written _ ih => exact .add row fresh written (ih h')

/-- Growth leaves every other table as it is and the types where they are. -/
theorem Registers.exists_append (h : Registers s s') :
    ∃ rows, s' = { s with types := s.types ++ rows } := by
  induction h with
  | refl s => exact ⟨[], by simp⟩
  | add row _ _ _ ih =>
    obtain ⟨rows, rfl⟩ := ih
    exact ⟨row :: rows, by simp⟩

theorem findType_append {rows : List TypeRow} (h : findType name s = .ok (some t)) :
    findType name { s with types := s.types ++ rows } = .ok (some t) := by
  simp only [findType, List.find?_append] at h ⊢
  cases hrow : s.types.find? (·.name = name) with
  | none =>
    rw [hrow] at h
    cases h
  | some r =>
    rw [hrow] at h
    exact h

theorem Registers.findType_eq_ok (h : Registers s s') (ht : findType name s = .ok (some t)) :
    findType name s' = .ok (some t) := by
  obtain ⟨rows, rfl⟩ := h.exists_append
  exact findType_append ht

/-! ## Lookup -/

theorem findType_eq_none : findType name s = .ok none ↔ ∀ r ∈ s.types, r.name ≠ name := by
  rw [findType.eq_def]
  cases hrow : s.types.find? (·.name = name) with
  | none => simpa using hrow
  | some r =>
    have hmem := List.mem_of_find?_eq_some hrow
    have hname : r.name = name := by simpa using List.find?_some hrow
    simp only [map_eq_ok, reduceCtorEq, and_false, exists_false, false_iff]
    exact fun hall => hall r hmem hname

/-- A type is found under its own name. -/
theorem name_of_findType (h : findType name s = .ok (some t)) : t.name = name := by
  rw [findType.eq_def] at h
  cases hrow : s.types.find? (·.name = name) with
  | none =>
    rw [hrow] at h
    cases h
  | some r =>
    rw [hrow] at h
    obtain ⟨t', ht', heq⟩ := map_eq_ok.1 h
    cases heq
    rw [TypeRow.read.eq_def] at ht'
    split at ht'
    · cases ht'
      simpa using List.find?_some hrow
    · cases ht'

theorem typeNamed_runOn_eq_ok :
    (typeNamed name).runOn s = (.ok t, s') ↔ findType name s = .ok (some t) ∧ s = s' :=
  lookup_runOn_eq_ok (fun _ => rfl) rfl

theorem typeNamed_bind_runOn_eq_ok {α : Type} {f : ItemType → Action α} {x : α} :
    (typeNamed name >>= f).runOn s = (.ok x, s') ↔
      ∃ t, findType name s = .ok (some t) ∧ (f t).runOn s = (.ok x, s') :=
  look_bind_runOn_eq_ok fun _ _ => typeNamed_runOn_eq_ok

theorem readOnly_typeNamed (name : String) : ReadOnly (typeNamed name) :=
  readOnly_lookup (fun _ => rfl) rfl

theorem readOnly_mergedFields (extended : Option String) (own : FieldSet) :
    ReadOnly (mergedFields extended own) := by
  cases extended with
  | none => exact readOnly_pure own
  | some parent => exact (readOnly_typeNamed parent).bind fun _ => readOnly_pure _

/-! ## Registration -/

/-- Registering gives a type that is there already with the same fields, or adds a new one. -/
theorem createType_runOn_eq_ok {extended : Option String} {own : FieldSet}
    (h : (createType scope extended name own).runOn s = (.ok t, s')) :
    ∃ merged, ItemType.checkName name = .ok () ∧
      (mergedFields extended own).runOn s = (.ok merged, s) ∧
      ((findType name s = .ok (some t) ∧ t.fields.same merged = true ∧ s' = s) ∨
        (findType name s = .ok none ∧ t = ⟨name, 1, merged⟩ ∧
          s' = { s with types := s.types ++ [⟨name, 1, extended, merged.text⟩] })) := by
  obtain ⟨_, hname, h⟩ := ofResult_bind_runOn_eq_ok.1 h
  obtain ⟨merged, _, hmerged, h⟩ := bind_runOn_eq_ok.1 (transaction_runOn_eq_ok.1 h)
  obtain rfl := (readOnly_mergedFields extended own).eq_of_runOn hmerged
  refine ⟨merged, hname, hmerged, ?_⟩
  rw [get_bind_runOn] at h
  obtain ⟨found, hfound, h⟩ := ofResult_bind_runOn_eq_ok.1 h
  cases found with
  | some existing =>
    simp only at h
    split at h
    next hsame =>
      cases h
      exact .inl ⟨hfound, hsame, rfl⟩
    · cases h
  | none =>
    obtain ⟨_, _, hinsert, h⟩ := bind_runOn_eq_ok.1 h
    cases statement_runOn_eq_ok.1 hinsert
    cases h
    exact .inr ⟨hfound, rfl, rfl⟩

theorem registers_of_createType {extended : Option String} {own : FieldSet}
    (h : (createType scope extended name own).runOn s = (.ok t, s')) : Registers s s' := by
  obtain ⟨merged, -, -, ⟨-, -, rfl⟩ | ⟨hnew, -, rfl⟩⟩ := createType_runOn_eq_ok h
  · exact .refl _
  · exact .add _ (findType_eq_none.1 hnew) ⟨merged, rfl⟩ (.refl _)

theorem registers_of_createExtending {names : List String} {ts : List ItemType}
    (h : (createExtending names).runOn s = (.ok ts, s')) : Registers s s' := by
  induction names generalizing s ts with
  | nil =>
    cases h
    exact .refl _
  | cons name names ih =>
    obtain ⟨t, _, hfirst, h⟩ := bind_runOn_eq_ok.1 h
    obtain ⟨rest, _, hrest, h⟩ := bind_runOn_eq_ok.1 h
    cases h
    exact (registers_of_createType hfirst).trans (ih hrest)

theorem registers_of_seedTypes {ts : List ItemType}
    (h : (seedTypes scope).runOn s = (.ok ts, s')) : Registers s s' := by
  obtain ⟨base, _, hbase, h⟩ := bind_runOn_eq_ok.1 (transaction_runOn_eq_ok.1 h)
  obtain ⟨rest, _, hrest, h⟩ := bind_runOn_eq_ok.1 h
  cases h
  exact (registers_of_createType hbase).trans (registers_of_createExtending hrest)

end Backlog.Store
