import Backlog.Proofs.Field.Schema
import Backlog.Proofs.Store.Change

/-!
# Registered types stay, but may not be read

A registration answers with the field set that it was given, and keeps its text. Every later look at
the type reads that text again.

**Main statement (`createType_then_read`).** A type that has been registered is loaded, listed and
registered again as it was answered, at once and after everything that can follow, exactly if it was
there before or its field set comes back from its text.

**The gap** (`exists_unreadable_type`): an enumeration of instants takes a value whose text is no
longer one of the years of four digits. The type is registered, and from then on neither it nor the
list of all types can be read.
-/

namespace Backlog.Store

open Store.Action

variable {s s' s'' : Store} {name : String} {t : ItemType} {scope : Scope}
  {extended : Option String} {own merged : FieldSet}

/-! ## Rows of types -/

/-- Names are taken once, and every row holds the text of a field set. -/
structure WellRegistered (s : Store) : Prop where
  names : (s.types.map TypeRow.name).Nodup
  texts : ∀ r ∈ s.types, ∃ fs : FieldSet, r.fieldsText = fs.text

theorem wellRegistered_empty : WellRegistered empty where
  names := .nil
  texts := by
    intro r hr
    cases hr

theorem WellRegistered.registers (h : WellRegistered s) (hmore : Registers s s') :
    WellRegistered s' := by
  induction hmore with
  | refl => exact h
  | @add s _ row fresh written _ ih =>
    refine ih ⟨?_, ?_⟩
    · have hnew : row.name ∉ s.types.map TypeRow.name := by
        intro hmem
        obtain ⟨r, hr, hname⟩ := List.mem_map.1 hmem
        exact fresh r hr hname
      rw [List.map_append, List.map_singleton, ← List.concat_eq_append]
      exact h.names.concat hnew
    · intro r hr
      rcases List.mem_append.1 hr with hr | hr
      · exact h.texts r hr
      · rw [List.mem_singleton.1 hr]
        exact written

/-- Only registration touches the types. -/
theorem types_of_effect {op : Operation} {a : Answer} (h : Operation.Effect s op a s') :
    s'.types = s.types ∨ Registers s s' := by
  cases h with
  | seedTypes grows | createType grows => exact .inr grows
  | _ => exact .inl rfl

theorem WellRegistered.run (h : WellRegistered s) (ops : List Operation) :
    WellRegistered (run ops s).2 := by
  refine run_induction ops h fun _ h heffect => ?_
  rcases types_of_effect heffect with htypes | hmore
  · exact ⟨htypes ▸ h.names, htypes ▸ h.texts⟩
  · exact h.registers hmore

theorem types_isPrefix_of_registers (h : Registers s s') : s.types <+: s'.types := by
  obtain ⟨rows, rfl⟩ := h.exists_append
  exact List.prefix_append _ _

theorem types_isPrefix_run (ops : List Operation) (s : Store) :
    s.types <+: (Store.run ops s).2.types := by
  refine run_induction (P := fun s' => s.types <+: s'.types) ops (List.prefix_refl _)
    fun _ h heffect => ?_
  rcases types_of_effect heffect with htypes | hmore
  · rwa [htypes]
  · exact h.trans (types_isPrefix_of_registers hmore)

/-! ## Reading rows -/

theorem findType_of_row {r : TypeRow} (h : s.types.find? (·.name = name) = some r) :
    findType name s = (TypeRow.read r).map some := by
  rw [findType, h]

theorem findType_eq_ok_of_row {r : TypeRow} (h : s.types.find? (·.name = name) = some r) :
    findType name s = .ok (some t) ↔ TypeRow.read r = .ok t := by
  rw [findType_of_row h, map_eq_ok]
  simp

theorem read_eq_ok {r : TypeRow} {fs : FieldSet} (h : r.fieldsText = fs.text) :
    TypeRow.read r = .ok t ↔
      FieldSet.ofText fs.text = .ok t.fields ∧ t.name = r.name ∧ t.version = r.version := by
  rw [TypeRow.read.eq_def, h]
  obtain ⟨name, version, fields⟩ := t
  cases FieldSet.ofText fs.text with
  | error f => simp
  | ok gs =>
    simp only [Except.ok.injEq, ItemType.mk.injEq, eq_comm]
    tauto

theorem name_of_read {r : TypeRow} (h : TypeRow.read r = .ok t) : t.name = r.name := by
  rw [TypeRow.read.eq_def] at h
  split at h
  · cases h
    rfl
  · cases h

theorem find?_row_of_isPrefix {r : TypeRow} (h : s.types <+: s'.types)
    (hr : s.types.find? (·.name = name) = some r) : s'.types.find? (·.name = name) = some r := by
  obtain ⟨rows, hrows⟩ := h
  rw [← hrows, List.find?_append, hr]
  rfl

theorem findType_of_isPrefix (h : s.types <+: s'.types) (ht : findType name s = .ok (some t)) :
    findType name s' = .ok (some t) := by
  obtain ⟨rows, hrows⟩ := h
  have hfound : findType name { s with types := s.types ++ rows } = .ok (some t) :=
    findType_append ht
  rwa [findType, hrows] at hfound

theorem mergedFields_of_isPrefix (h : s.types <+: s'.types)
    (hmerged : (mergedFields extended own).runOn s = (.ok merged, s)) :
    (mergedFields extended own).runOn s' = (.ok merged, s') := by
  cases extended with
  | none =>
    cases hmerged
    rfl
  | some parent =>
    obtain ⟨above, hfound, hmerged⟩ := typeNamed_bind_runOn_eq_ok.1 hmerged
    cases hmerged
    exact typeNamed_bind_runOn_eq_ok.2 ⟨above, findType_of_isPrefix h hfound, rfl⟩

/-! ## Lists of types -/

theorem runOn_listTypes (s : Store) :
    (listTypes none none).runOn s = (s.types.mapM TypeRow.read, s) := by
  rw [listTypes, get_bind_runOn]
  exact runOn_ofResult _ _

/-- All types are listed exactly if no row stands in the way. -/
theorem exists_listTypes_iff (h : WellRegistered s) :
    (∃ ts, (listTypes none none).runOn s = (.ok ts, s)) ↔
      ∀ r ∈ s.types, ∃ fs : FieldSet, r.fieldsText = fs.text ∧
        fs.ChoicesHave Choices.CanBeRead ∧ fs.ChoicesHave Choices.InPlainYears := by
  have hrow : ∀ r ∈ s.types, (∃ t, TypeRow.read r = .ok t) ↔
      ∃ fs : FieldSet, r.fieldsText = fs.text ∧
        fs.ChoicesHave Choices.CanBeRead ∧ fs.ChoicesHave Choices.InPlainYears := by
    intro r hr
    constructor
    · intro hread
      obtain ⟨t, ht⟩ := hread
      obtain ⟨fs, hfs⟩ := h.texts r hr
      exact ⟨fs, hfs, FieldSet.exists_ofText_text_iff.1 ⟨t.fields, ((read_eq_ok hfs).1 ht).1⟩⟩
    · intro hfields
      obtain ⟨fs, hfs, hgood⟩ := hfields
      obtain ⟨gs, hgs⟩ := FieldSet.exists_ofText_text_iff.2 hgood
      exact ⟨⟨r.name, r.version, gs⟩, (read_eq_ok hfs).2 ⟨hgs, rfl, rfl⟩⟩
  simp only [runOn_listTypes, Prod.mk.injEq, and_true, mapM_eq_ok]
  constructor
  · intro hlist r hr
    obtain ⟨ts, hts⟩ := hlist
    obtain ⟨t, -, ht⟩ := exists_of_mem_left hts hr
    exact (hrow r hr).1 ⟨t, ht⟩
  · intro hall
    exact exists_forall₂ fun r hr => (hrow r hr).2 (hall r hr)

/-! ## Registration, and later looks -/

/-- The type was registered before, or its field set comes back from its text. -/
def Lasting (s : Store) (t : ItemType) : Prop :=
  findType t.name s = .ok (some t) ∨
    t.fields.ChoicesHave Choices.ReadAsWritten ∧ t.fields.ChoicesHave Choices.InPlainYears

/-- A registration leaves a row under the name, which is read as what was answered exactly if that
lasts. -/
theorem exists_row_of_createType
    (h : (createType scope extended name own).runOn s = (.ok t, s')) :
    t.name = name ∧ ∃ r, s'.types.find? (·.name = name) = some r ∧
      (TypeRow.read r = .ok t ↔ Lasting s t) := by
  obtain ⟨merged, -, -, ⟨hfound, -, rfl⟩ | ⟨hnew, rfl, rfl⟩⟩ := createType_runOn_eq_ok h
  · have hname := name_of_findType hfound
    refine ⟨hname, ?_⟩
    cases hr : s'.types.find? (·.name = name) with
    | none => rw [findType, hr] at hfound; cases hfound
    | some r =>
      exact ⟨r, rfl, iff_of_true ((findType_eq_ok_of_row hr).1 hfound) (.inl (hname ▸ hfound))⟩
  · have hfresh : s.types.find? (·.name = name) = none := by
      simpa using findType_eq_none.1 hnew
    refine ⟨rfl, ⟨name, 1, extended, merged.text⟩, by simp [List.find?_append, hfresh], ?_⟩
    rw [read_eq_ok rfl, Lasting, hnew]
    simp [FieldSet.ofText_text_eq_ok_self]

/-- What is answered has the fields that were asked for. -/
theorem same_of_createType (h : (createType scope extended name own).runOn s = (.ok t, s')) :
    ∃ merged, ItemType.checkName name = .ok () ∧
      (mergedFields extended own).runOn s = (.ok merged, s) ∧ t.fields.same merged = true := by
  obtain ⟨merged, hname, hmerged, ⟨-, hsame, -⟩ | ⟨-, rfl, -⟩⟩ := createType_runOn_eq_ok h
  · exact ⟨merged, hname, hmerged, hsame⟩
  · exact ⟨merged, hname, hmerged, merged.same_self⟩

/-- Registering again with the fields of a type that is there changes nothing. -/
theorem createType_runOn_of_findType (hname : ItemType.checkName name = .ok ())
    (hmerged : (mergedFields extended own).runOn s = (.ok merged, s))
    (ht : findType name s = .ok (some t)) (hsame : t.fields.same merged = true) :
    (createType scope extended name own).runOn s = (.ok t, s) := by
  refine ofResult_bind_runOn_eq_ok.2 ⟨(), hname, ?_⟩
  refine transaction_runOn_eq_ok.2 (bind_runOn_eq_ok.2 ⟨merged, s, hmerged, ?_⟩)
  rw [get_bind_runOn]
  refine ofResult_bind_runOn_eq_ok.2 ⟨some t, ht, ?_⟩
  simp only [hsame, if_true]
  rfl

/-- **Registered types are read as they were answered, or never.** After a registration and
whatever follows it, loading the type, registering it again and looking for it in the list of all
types each give what the registration answered exactly if that lasts. There is a list exactly if
the field set of every row can be read. -/
theorem createType_then_read (hs : Reachable s)
    (h : (createType scope extended name own).runOn s = (.ok t, s')) {more : List Operation}
    (hmore : (run more s').2 = s'') :
    ((loadType t.name).runOn s'' = (.ok t, s'') ↔ Lasting s t) ∧
      ((createType scope extended name own).runOn s'' = (.ok t, s'') ↔ Lasting s t) ∧
      ((∃ ts, (listTypes none none).runOn s'' = (.ok ts, s'')) ↔
        ∀ r ∈ s''.types, ∃ fs : FieldSet, r.fieldsText = fs.text ∧
          fs.ChoicesHave Choices.CanBeRead ∧ fs.ChoicesHave Choices.InPlainYears) ∧
      ∀ ts, (listTypes none none).runOn s'' = (.ok ts, s'') →
        (ts.filter (·.name = t.name) = [t] ↔ Lasting s t) := by
  obtain ⟨ops, rfl⟩ := hs
  have hgrows := registers_of_createType h
  have hregistered : WellRegistered s'' := by
    rw [← hmore]
    exact ((wellRegistered_empty.run ops).registers hgrows).run more
  have hprefix : s'.types <+: s''.types := by
    rw [← hmore]
    exact types_isPrefix_run more s'
  obtain ⟨hname, r, hr, hlasting⟩ := exists_row_of_createType h
  have hrow := find?_row_of_isPrefix hprefix hr
  have hfound : findType name s'' = .ok (some t) ↔ Lasting (run ops empty).2 t := by
    rw [findType_eq_ok_of_row hrow, hlasting]
  subst hname
  refine ⟨?_, ?_, exists_listTypes_iff hregistered, fun ts hts => ?_⟩
  · rw [loadType, typeNamed_runOn_eq_ok, and_iff_left rfl, hfound]
  · rw [← hfound]
    constructor
    · intro hagain
      obtain ⟨_, -, -, ⟨hfound, -⟩ | ⟨hnew, -⟩⟩ := createType_runOn_eq_ok hagain
      · exact hfound
      · exact (findType_eq_none.1 hnew r (List.mem_of_find?_eq_some hrow)
          (by simpa using List.find?_some hrow)).elim
    · intro hfound
      obtain ⟨merged, hcheck, hmerged, hsame⟩ := same_of_createType h
      have hbefore : (run ops empty).2.types <+: s''.types :=
        (types_isPrefix_of_registers hgrows).trans hprefix
      exact createType_runOn_of_findType hcheck (mergedFields_of_isPrefix hbefore hmerged) hfound
        hsame
  · rw [runOn_listTypes, Prod.mk.injEq, mapM_eq_ok] at hts
    have hmem := List.mem_of_find?_eq_some hrow
    have hname : r.name = t.name := by simpa using List.find?_some hrow
    obtain ⟨t', -, ht'⟩ := exists_of_mem_left hts.1 hmem
    have hone : ts.filter (·.name = t.name) = [t'] := by
      rw [← hname]
      refine filter_of_forall₂ hts.1 hregistered.names (fun _ _ _ => name_of_read) hmem ?_
      simp [ht', eq_comm]
    rw [hone, ← hlasting, ht']
    simp

/-! ## The gap -/

theorem createType_lateSet : (createType .own none "t" lateSet).runOn empty =
    (.ok ⟨"t", 1, lateSet⟩, { empty with types := [⟨"t", 1, none, lateSet.text⟩] }) := rfl

theorem not_lasting_lateSet : ¬ Lasting empty ⟨"t", 1, lateSet⟩ := by
  rintro (hfound | ⟨-, hyears⟩)
  · cases hfound
  · exact not_inPlainYears_lateSet hyears

/-- The type of `lateSet` is registered, and from then on neither loaded nor registered again. -/
theorem createType_then_read_lateSet : ∃ t s',
    (createType .own none "t" lateSet).runOn empty = (.ok t, s') ∧
      (loadType t.name).runOn s' ≠ (.ok t, s') ∧
      (createType .own none "t" lateSet).runOn s' ≠ (.ok t, s') ∧
      ¬ ∃ ts, (listTypes none none).runOn s' = (.ok ts, s') ∧
        ts.filter (·.name = t.name) = [t] := by
  obtain ⟨hload, hagain, -, hlisted⟩ :=
    createType_then_read ⟨[], rfl⟩ createType_lateSet (rfl : (run [] _).2 = _)
  refine ⟨_, _, createType_lateSet, mt hload.1 not_lasting_lateSet,
    mt hagain.1 not_lasting_lateSet, ?_⟩
  rintro ⟨ts, hts, hone⟩
  exact not_lasting_lateSet ((hlisted ts hts).1 hone)

/-- Not every type that has been registered can be loaded. -/
theorem exists_unreadable_type : ¬ ∀ (s s' : Store) (extended : Option String) (name : String)
    (own : FieldSet) (t : ItemType), Reachable s →
      (createType .own extended name own).runOn s = (.ok t, s') →
        (loadType t.name).runOn s' = (.ok t, s') := by
  intro h
  have hload := h _ _ none "t" lateSet _ ⟨[], rfl⟩ createType_lateSet
  obtain ⟨hfound, -⟩ := typeNamed_runOn_eq_ok.1 hload
  obtain ⟨-, r, hr, hlasting⟩ := exists_row_of_createType createType_lateSet
  exact not_lasting_lateSet (hlasting.1 ((findType_eq_ok_of_row hr).1 hfound))

end Backlog.Store
