import Backlog.Field.Values
import Backlog.Proofs.Field.Shape
import Mathlib.Data.List.Nodup

/-!
# Records under field sets, name by name

**Main statement (`FieldSet.convert_eq_ok`).** A record converts exactly if every declared field
does, each on its own; in the result a declared field has its converted value, unless that is
`null`, and every other name has the value that it had.
-/

namespace Backlog

/-! ## Records of distinct names -/

namespace Record

variable {α : Type} {l : List (String × α)} {name : String} {value : α}

theorem lookup_eq_some (hl : (l.map Prod.fst).Nodup) :
    lookup name l = some value ↔ (name, value) ∈ l := by
  refine ⟨mem_of_lookup, fun h => ?_⟩
  induction l with
  | nil => cases h
  | cons e l ih =>
    obtain ⟨k, v⟩ := e
    simp only [List.map_cons, List.nodup_cons] at hl
    rw [lookup]
    rcases List.mem_cons.1 h with h | h
    · cases h
      rw [if_pos rfl]
    · have hne : k ≠ name := fun hk => hl.1 (List.mem_map.2 ⟨_, h, hk.symm⟩)
      rw [if_neg hne, ih hl.2 h]

/-- Entries of distinct names are all found. -/
theorem find?_ofList_eq_some (hl : (l.map Prod.fst).Nodup) :
    (ofList l).find? name = some value ↔ (name, value) ∈ l := by
  rw [find?_ofList, lookup_eq_some (by rwa [List.map_reverse, List.nodup_reverse]),
    List.mem_reverse]

theorem nodup_names (r : Record α) : (r.entries.map Prod.fst).Nodup :=
  r.sorted.imp fun h => String.ne_of_lt h

end Record

/-! ## One field -/

namespace FieldDefinition

/-- A field without a value is left out where it may be; a value is converted by its type. -/
theorem convert_eq_ok {d : FieldDefinition} {dir : Direction} {name : String}
    {value : Option Json} {v : Json} :
    d.convert dir name value = .ok v ↔
      ((value = none ∨ value = some .null) ∧ d.required = false ∧ v = .null) ∨
        ∃ x, value = some x ∧ x ≠ .null ∧ d.type.convert dir x = .ok v := by
  rw [convert.eq_def]
  split
  · cases d.required <;> simp [eq_comm]
  · cases d.required <;> simp [eq_comm]
  next x hnull =>
    have hx : x ≠ .null := fun h => hnull h
    simp [hx]

end FieldDefinition

/-! ## All fields -/

namespace FieldSet

variable {dir : Direction} {input out : Record Json}

/-- The declared fields convert if each of them does. -/
theorem exists_convertDeclared {ds : List (String × FieldDefinition)}
    (h : ∀ e ∈ ds, ∃ v, e.2.convert dir e.1 (input.find? e.1) = .ok v) :
    ∃ vs, convertDeclared dir input ds = .ok vs := by
  induction ds with
  | nil => exact ⟨[], rfl⟩
  | cons e ds ih =>
    obtain ⟨v, hv⟩ := h e List.mem_cons_self
    obtain ⟨vs, hvs⟩ := ih fun e' he' => h e' (List.mem_cons_of_mem e he')
    refine ⟨if v.isNull then vs else (e.1, v) :: vs, ?_⟩
    rw [convertDeclared, hv, ok_bind, hvs, ok_bind]
    rfl

/-- Each declared field has converted, and those that have not come out as `null` are there. -/
theorem mem_of_convertDeclared {ds : List (String × FieldDefinition)} {vs : List (String × Json)}
    (h : convertDeclared dir input ds = .ok vs) :
    (∀ e ∈ ds, ∃ v, e.2.convert dir e.1 (input.find? e.1) = .ok v) ∧
      (vs.map Prod.fst).Sublist (ds.map Prod.fst) ∧
      ∀ name v, (name, v) ∈ vs ↔
        ∃ d, (name, d) ∈ ds ∧ d.convert dir name (input.find? name) = .ok v ∧ v ≠ .null := by
  induction ds generalizing vs with
  | nil =>
    cases h
    simp
  | cons e ds ih =>
    obtain ⟨n, d⟩ := e
    obtain ⟨u, hu, h⟩ := bind_eq_ok.1 h
    obtain ⟨us, hus, h⟩ := bind_eq_ok.1 h
    obtain ⟨hall, hsub, hmem⟩ := ih hus
    cases h
    refine ⟨?_, ?_, fun name v => ?_⟩
    · intro e he
      rcases List.mem_cons.1 he with rfl | he
      · exact ⟨u, hu⟩
      · exact hall e he
    · split
      · exact hsub.cons _
      · exact hsub.cons_cons _
    · have hhead : (∃ d', (name, d') = (n, d) ∧ d'.convert dir name (input.find? name) = .ok v ∧
          v ≠ .null) ↔ (name, v) = (n, u) ∧ u ≠ .null := by
        constructor
        · intro hhead
          obtain ⟨d', ⟨⟩, hv, hne⟩ := hhead
          obtain rfl : v = u := by simpa [hu] using hv.symm
          exact ⟨rfl, hne⟩
        · intro hhead
          obtain ⟨⟨⟩, hne⟩ := hhead
          exact ⟨d, rfl, hu, hne⟩
      simp only [List.mem_cons, or_and_right, exists_or, hhead, ← hmem]
      cases hnull : u.isNull with
      | true => simp [Json.isNull_eq_true.1 hnull]
      | false => simp [Json.isNull_eq_false.1 hnull]

/-- The result of a conversion, name by name. -/
def Converts (fs : FieldSet) (dir : Direction) (input out : Record Json) : Prop :=
  ∀ name, match fs.find? name with
    | some d => ∃ v, d.convert dir name (input.find? name) = .ok v ∧
        out.find? name = if v.isNull then none else some v
    | none => out.find? name = input.find? name

theorem Converts.unique {fs : FieldSet} {out' : Record Json} (h : fs.Converts dir input out)
    (h' : fs.Converts dir input out') : out = out' := by
  apply Record.ext_find?
  intro name
  have hname := h name
  have hname' := h' name
  cases hd : fs.find? name with
  | none =>
    simp only [hd] at hname hname'
    rw [hname, hname']
  | some d =>
    simp only [hd] at hname hname'
    obtain ⟨v, hv, hout⟩ := hname
    obtain ⟨v', hv', hout'⟩ := hname'
    obtain rfl : v = v' := by simpa [hv] using hv'
    rw [hout, hout']

section PutTogether

variable {fs : FieldSet} {vs : List (String × Json)}

theorem mem_undeclared {name : String} {v : Json} :
    (name, v) ∈ fs.undeclared input ↔ input.find? name = some v ∧ fs.find? name = none := by
  rw [undeclared, List.mem_filter, Record.mem_entries_iff]
  cases hd : fs.find? name <;> simp [Record.contains, hd]

/-- Converted and undeclared fields have different names. -/
theorem nodup_of_convertDeclared (h : convertDeclared dir input fs.entries = .ok vs) :
    ((vs ++ fs.undeclared input).map Prod.fst).Nodup := by
  obtain ⟨-, hsub, -⟩ := mem_of_convertDeclared h
  rw [List.map_append, List.nodup_append]
  refine ⟨fs.nodup_names.sublist hsub, input.nodup_names.sublist (List.filter_sublist.map _), ?_⟩
  intro name hname other hother heq
  subst heq
  obtain ⟨⟨_, v⟩, hv, rfl⟩ := List.mem_map.1 hother
  have hsome := Record.mem_names_iff.1 (hsub.subset hname)
  rw [(mem_undeclared.1 hv).2] at hsome
  cases hsome

theorem find?_of_convertDeclared (h : convertDeclared dir input fs.entries = .ok vs)
    {name : String} {v : Json} :
    (Record.ofList (vs ++ fs.undeclared input)).find? name = some v ↔
      (∃ d, fs.find? name = some d ∧ d.convert dir name (input.find? name) = .ok v ∧ v ≠ .null) ∨
        (input.find? name = some v ∧ fs.find? name = none) := by
  obtain ⟨-, -, hmem⟩ := mem_of_convertDeclared h
  simp only [Record.find?_ofList_eq_some (nodup_of_convertDeclared h), List.mem_append, hmem,
    mem_undeclared, Record.mem_entries_iff]

/-- What is put together from converted and undeclared fields is described by `Converts`. -/
theorem converts_of_convertDeclared (h : convertDeclared dir input fs.entries = .ok vs) :
    fs.Converts dir input (Record.ofList (vs ++ fs.undeclared input)) := by
  obtain ⟨hall, -, -⟩ := mem_of_convertDeclared h
  intro name
  cases hd : fs.find? name with
  | none =>
    apply Option.ext
    intro v
    simp [find?_of_convertDeclared h, hd]
  | some d =>
    obtain ⟨v, hv⟩ := hall (name, d) (Record.mem_entries_iff.2 hd)
    refine ⟨v, hv, Option.ext fun u => ?_⟩
    rw [find?_of_convertDeclared h, hd]
    simp only [Option.some.injEq, exists_eq_left', hv, Except.ok.injEq, reduceCtorEq, and_false,
      or_false]
    by_cases hnull : v = .null
    · subst hnull
      have hnone : Json.null.isNull = true := rfl
      simp only [hnone, if_true, reduceCtorEq, iff_false]
      intro hu
      exact hu.2 hu.1.symm
    · rw [Json.isNull_eq_false.2 hnull]
      simp only [Bool.false_eq_true, if_false, Option.some.injEq, and_iff_left_iff_imp]
      intro hu
      rw [← hu]
      exact hnull

end PutTogether

/-- A record converts to the one record that `Converts` describes, if there is one. -/
theorem convert_eq_ok {fs : FieldSet} :
    fs.convert dir input = .ok out ↔ fs.Converts dir input out := by
  rw [convert, bind_eq_ok]
  constructor
  · intro h
    obtain ⟨vs, hvs, h⟩ := h
    cases h
    exact converts_of_convertDeclared hvs
  · intro h
    have hall : ∀ e ∈ fs.entries, ∃ v, e.2.convert dir e.1 (input.find? e.1) = .ok v := by
      rintro ⟨name, d⟩ he
      have hname := h name
      rw [Record.mem_entries_iff.1 he] at hname
      obtain ⟨v, hv, -⟩ := hname
      exact ⟨v, hv⟩
    obtain ⟨vs, hvs⟩ := exists_convertDeclared hall
    refine ⟨vs, hvs, ?_⟩
    rw [(converts_of_convertDeclared hvs).unique h]
    rfl

end FieldSet

end Backlog
