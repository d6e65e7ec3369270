import Backlog.Proofs.Field.Same
import Backlog.Proofs.Store.Registrations

/-!
# Seeding is all or nothing

The built-in types are registered one after the other, and any of them may have been registered
before, with these fields or with others.

**Step** (`createType_builtin_runOn_eq_ok`). A built-in type is registered exactly if its name is
free or has the fields of the system already (`Admits`). The registry is filled up with it then
(`fill`).

**Run** (`createExtending_runOn_eq_ok`). Filling up with one name leaves the others as they were, so
whether all go well can be told beforehand.

**Main statement (`seedTypes_all_or_nothing`).** Seeding succeeds exactly if every built-in name
is admitted. It fills the registry up then and seeding again changes nothing. Where it fails the
store is as before.
-/

namespace Backlog

/-! ## The fields of the system -/

namespace Builtin

def names : List String := baseName :: extendingNames

/-- What a built-in name is registered as. -/
def type (name : String) : ItemType := ⟨name, 1, baseFields⟩

theorem nodup_names : names.Nodup := by decide

theorem checkName_of_mem {name : String} (h : name ∈ names) :
    ItemType.checkName name = .ok () := by
  have hall : ∀ name ∈ names, (ItemType.checkName name).toBool = true := by decide +kernel
  have hname := hall name h
  cases hcheck : ItemType.checkName name with
  | ok => rfl
  | error e => rw [hcheck] at hname; cases hname

theorem eq_of_enum_mem {c : Choices} {e : String × FieldDefinition} (he : e ∈ baseFields.entries)
    (hc : e.2.type = .enum c) : c = stateChoices := by
  have hentries : baseFields.entries = [
      (WorkItem.assigneeField, ⟨false, .scalar .user⟩),
      (WorkItem.creatorField, ⟨true, .scalar .user⟩),
      (WorkItem.descriptionField, ⟨false, .scalar .string⟩),
      (WorkItem.iterationField, ⟨false, .scalar .string⟩),
      (WorkItem.labelsField, ⟨false, .list .string⟩),
      (WorkItem.stateField, ⟨true, .enum stateChoices⟩),
      (WorkItem.titleField, ⟨true, .scalar .string⟩)] := rfl
  rw [hentries] at he
  simp only [List.mem_cons, List.not_mem_nil, or_false] at he
  rcases he with rfl | rfl | rfl | rfl | rfl | rfl | rfl <;> cases hc
  rfl

/-- The only enumeration is that of the states. -/
theorem choicesHave_baseFields {P : Choices → Prop} (h : P stateChoices) :
    baseFields.ChoicesHave P := by
  rw [FieldSet.choicesHave_iff]
  intro e he c hc
  rwa [eq_of_enum_mem he hc]

theorem eq_str_of_mem {v : Json} (h : v ∈ stateChoices.values) : ∃ a, v = .str a := by
  obtain ⟨a, -, rfl⟩ := List.mem_map.1 h
  exact ⟨a, rfl⟩

theorem ofText_text_baseFields : FieldSet.ofText baseFields.text = .ok baseFields := by
  refine FieldSet.ofText_text_eq_ok_self.2 ⟨choicesHave_baseFields fun v hv => ?_,
    choicesHave_baseFields fun v hv us hus => ?_⟩
  · obtain ⟨a, rfl⟩ := eq_str_of_mem hv
    rfl
  · obtain ⟨a, rfl⟩ := eq_str_of_mem hv
    cases hus

theorem same_baseFields_iff {fs : FieldSet} : fs.same baseFields = true ↔ fs = baseFields := by
  constructor
  · intro h
    refine FieldSet.eq_of_same h (choicesHave_baseFields fun v hv x => ?_)
    obtain ⟨a, rfl⟩ := eq_str_of_mem hv
    simp
  · rintro rfl
    exact baseFields.same_self

end Builtin

namespace Store

open Store.Action

variable {s s' : Store} {name : String} {names : List String} {t : ItemType} {ts : List ItemType}
  {scope : Scope}

/-! ## Filling up -/

/-- The row that seeding gives a built-in name. -/
def builtinRow (name : String) : TypeRow :=
  ⟨name, 1, if name = Builtin.baseName then none else some Builtin.baseName,
    Builtin.baseFields.text⟩

/-- No type has the name. -/
def Free (name : String) (s : Store) : Prop := ∀ r ∈ s.types, r.name ≠ name

instance : Decidable (Free name s) := inferInstanceAs (Decidable (∀ r ∈ s.types, r.name ≠ name))

/-- The name is free, or has the fields of the system already. -/
def Admits (name : String) (s : Store) : Prop :=
  Free name s ∨ ∃ t, findType name s = .ok (some t) ∧ t.fields = Builtin.baseFields

/-- The store with rows at the end of its registry for those of the names that are free. -/
def fill (names : List String) (s : Store) : Store :=
  { s with types := s.types ++ (names.filter (Free · s)).map builtinRow }

theorem fill_singleton_of_free (h : Free name s) :
    fill [name] s = { s with types := s.types ++ [builtinRow name] } := by
  simp [fill, h]

theorem fill_singleton_of_not_free (h : ¬ Free name s) : fill [name] s = s := by
  simp [fill, h]

theorem free_fill_singleton {other : String} (hne : other ≠ name) :
    Free other (fill [name] s) ↔ Free other s := by
  by_cases h : Free name s
  · rw [fill_singleton_of_free h, Free, List.forall_mem_append, List.forall_mem_singleton]
    exact and_iff_left hne.symm
  · rw [fill_singleton_of_not_free h]

/-- Filling up goes one name at a time. -/
theorem fill_cons (h : name ∉ names) : fill (name :: names) s = fill names (fill [name] s) := by
  have hothers : names.filter (Free · (fill [name] s)) = names.filter (Free · s) :=
    List.filter_congr fun other hother =>
      decide_eq_decide.2 (free_fill_singleton fun heq => h (heq ▸ hother))
  rw [fill.eq_def names, hothers]
  by_cases hname : Free name s
  · simp [fill, hname]
  · simp [fill, hname]

theorem findType_fill_of_ne {other : String} (hne : other ≠ name) :
    findType other (fill [name] s) = findType other s := by
  by_cases h : Free name s
  · have hrow : ([builtinRow name].find? (·.name = other)) = none := by
      simpa [builtinRow] using hne.symm
    rw [fill_singleton_of_free h, findType, findType, List.find?_append, hrow, Option.or_none]
  · rw [fill_singleton_of_not_free h]

theorem admits_fill_singleton {other : String} (hne : other ≠ name) :
    Admits other (fill [name] s) ↔ Admits other s := by
  rw [Admits, Admits, free_fill_singleton hne, findType_fill_of_ne hne]

theorem version_fill (h : ∀ r ∈ s.types, r.version = 1) :
    ∀ r ∈ (fill names s).types, r.version = 1 := by
  intro r hr
  rcases List.mem_append.1 hr with hr | hr
  · exact h r hr
  · obtain ⟨name, -, rfl⟩ := List.mem_map.1 hr
    rfl

/-! ## What is found under a name -/

theorem read_builtinRow (name : String) :
    TypeRow.read (builtinRow name) = .ok (Builtin.type name) :=
  (read_eq_ok rfl).2 ⟨Builtin.ofText_text_baseFields, rfl, rfl⟩

/-- A name with the fields of the system has them as a built-in name does. -/
theorem findType_eq_type (hversion : ∀ r ∈ s.types, r.version = 1)
    (ht : findType name s = .ok (some t)) (hfields : t.fields = Builtin.baseFields) :
    t = Builtin.type name := by
  have hname := name_of_findType ht
  cases hr : s.types.find? (·.name = name) with
  | none =>
    rw [findType, hr] at ht
    cases ht
  | some r =>
    have hread := (findType_eq_ok_of_row hr).1 ht
    have hr1 := hversion r (List.mem_of_find?_eq_some hr)
    rw [TypeRow.read.eq_def] at hread
    split at hread
    · cases hread
      rw [Builtin.type, ← hname, ← hfields, ← hr1]
    · cases hread

/-- After filling up, a name that is admitted is found as a built-in one. -/
theorem findType_fill (hversion : ∀ r ∈ s.types, r.version = 1) (hname : name ∈ names)
    (h : Admits name s) : findType name (fill names s) = .ok (some (Builtin.type name)) := by
  rcases h with hfree | ⟨t, ht, hfields⟩
  · have hnone : s.types.find? (·.name = name) = none := by simpa [Free] using hfree
    have hrow : ((names.filter (Free · s)).map builtinRow).find? (·.name = name) =
        some (builtinRow name) := by
      refine find?_eq_some_of_unique (List.mem_map_of_mem (List.mem_filter.2 ⟨hname, by simpa⟩))
        (by simp [builtinRow]) fun r hr heq => ?_
      obtain ⟨other, -, rfl⟩ := List.mem_map.1 hr
      have hother : other = name := of_decide_eq_true heq
      rw [hother]
    rw [findType, fill, List.find?_append, hnone, Option.none_or, hrow]
    exact congrArg (Except.map some) (read_builtinRow name)
  · rw [← findType_eq_type hversion ht hfields]
    exact findType_append ht

/-- Filling up again changes nothing. -/
theorem fill_fill (names : List String) (s : Store) : fill names (fill names s) = fill names s := by
  have hnone : names.filter (Free · (fill names s)) = [] := by
    refine List.filter_eq_nil_iff.2 fun name hname hfree => ?_
    have hfree : Free name (fill names s) := of_decide_eq_true hfree
    have hbefore : Free name s := fun r hr => hfree r (List.mem_append_left _ hr)
    refine hfree (builtinRow name) (List.mem_append_right _ (List.mem_map_of_mem ?_)) rfl
    exact List.mem_filter.2 ⟨hname, decide_eq_true hbefore⟩
  rw [fill.eq_def names (fill names s), hnone, List.map_nil, List.append_nil]

/-! ## One registration -/

/-- Registering under a free name adds a row. -/
theorem createType_runOn_of_free {extended : Option String} {own merged : FieldSet}
    (hname : ItemType.checkName name = .ok ())
    (hmerged : (mergedFields extended own).runOn s = (.ok merged, s)) (hfree : Free name s) :
    (createType scope extended name own).runOn s = (.ok ⟨name, 1, merged⟩,
      { s with types := s.types ++ [⟨name, 1, extended, merged.text⟩] }) := by
  refine ofResult_bind_runOn_eq_ok.2 ⟨(), hname, ?_⟩
  refine transaction_runOn_eq_ok.2 (bind_runOn_eq_ok.2 ⟨merged, s, hmerged, ?_⟩)
  rw [get_bind_runOn]
  refine ofResult_bind_runOn_eq_ok.2 ⟨none, findType_eq_none.2 hfree, ?_⟩
  exact bind_runOn_eq_ok.2 ⟨(), _, statement_runOn_eq_ok.2 rfl, rfl⟩

/-- A registration that ends in the fields of the system succeeds exactly if the name is admitted,
and fills up with it. -/
theorem createType_builtin_runOn_eq_ok {extended : Option String} {own : FieldSet}
    (hversion : ∀ r ∈ s.types, r.version = 1) (hname : ItemType.checkName name = .ok ())
    (hextended : (builtinRow name).parent = extended)
    (hmerged : (mergedFields extended own).runOn s = (.ok Builtin.baseFields, s)) :
    (createType scope extended name own).runOn s = (.ok t, s') ↔
      Admits name s ∧ t = Builtin.type name ∧ s' = fill [name] s := by
  subst hextended
  constructor
  · intro h
    obtain ⟨merged, -, hmerged', hcases⟩ := createType_runOn_eq_ok h
    obtain rfl : Builtin.baseFields = merged :=
      Except.ok.inj (Prod.mk.inj (hmerged.symm.trans hmerged')).1
    rcases hcases with ⟨hfound, hsame, rfl⟩ | ⟨hnew, rfl, rfl⟩
    · have hfields := Builtin.same_baseFields_iff.1 hsame
      have htaken : ¬ Free name s' := fun hfree => by
        rw [findType_eq_none.2 hfree] at hfound
        cases hfound
      exact ⟨.inr ⟨t, hfound, hfields⟩, findType_eq_type hversion hfound hfields,
        (fill_singleton_of_not_free htaken).symm⟩
    · have hfree : Free name s := findType_eq_none.1 hnew
      exact ⟨.inl hfree, rfl, (fill_singleton_of_free hfree).symm⟩
  · rintro ⟨hadmits, rfl, rfl⟩
    rcases hadmits with hfree | ⟨t, ht, hfields⟩
    · rw [fill_singleton_of_free hfree]
      exact createType_runOn_of_free hname hmerged hfree
    · have htaken : ¬ Free name s := fun hfree => by
        rw [findType_eq_none.2 hfree] at ht
        cases ht
      rw [fill_singleton_of_not_free htaken, ← findType_eq_type hversion ht hfields]
      exact createType_runOn_of_findType hname hmerged ht (Builtin.same_baseFields_iff.2 hfields)

/-! ## All registrations -/

/-- The step of the induction: one name first, and the others on the store that it leaves. -/
theorem cons_runOn_eq_ok {first : Action ItemType} {rest : Action (List ItemType)}
    (hname : name ∉ names)
    (hfirst : ∀ t m, first.runOn s = (.ok t, m) ↔
      Admits name s ∧ t = Builtin.type name ∧ m = fill [name] s)
    (hrest : Admits name s → ∀ ts s', rest.runOn (fill [name] s) = (.ok ts, s') ↔
      (∀ other ∈ names, Admits other (fill [name] s)) ∧ ts = names.map Builtin.type ∧
        s' = fill names (fill [name] s)) :
    (first >>= fun t => rest >>= fun ts => pure (t :: ts)).runOn s = (.ok ts, s') ↔
      (∀ other ∈ name :: names, Admits other s) ∧ ts = (name :: names).map Builtin.type ∧
        s' = fill (name :: names) s := by
  have hothers : (∀ other ∈ names, Admits other (fill [name] s)) ↔
      ∀ other ∈ names, Admits other s :=
    forall₂_congr fun other hother => admits_fill_singleton fun heq => hname (heq ▸ hother)
  rw [hothers, ← fill_cons hname] at hrest
  rw [List.forall_mem_cons, List.map_cons]
  constructor
  · intro h
    obtain ⟨t, _, ht, h⟩ := bind_runOn_eq_ok.1 h
    obtain ⟨hadmits, rfl, rfl⟩ := (hfirst _ _).1 ht
    obtain ⟨rest, _, hts, h⟩ := bind_runOn_eq_ok.1 h
    obtain ⟨hall, rfl, rfl⟩ := (hrest hadmits _ _).1 hts
    cases h
    exact ⟨⟨hadmits, hall⟩, rfl, rfl⟩
  · rintro ⟨⟨hadmits, hall⟩, rfl, rfl⟩
    exact bind_runOn_eq_ok.2 ⟨_, _, (hfirst _ _).2 ⟨hadmits, rfl, rfl⟩,
      bind_runOn_eq_ok.2 ⟨_, _, (hrest hadmits _ _).2 ⟨hall, rfl, rfl⟩, rfl⟩⟩

/-- The names that extend the base type are registered exactly if they are all admitted. -/
theorem createExtending_runOn_eq_ok (hversion : ∀ r ∈ s.types, r.version = 1)
    (hbase : findType Builtin.baseName s = .ok (some (Builtin.type Builtin.baseName)))
    (hnodup : (Builtin.baseName :: names).Nodup)
    (hnames : ∀ name ∈ names, ItemType.checkName name = .ok ()) :
    (createExtending names).runOn s = (.ok ts, s') ↔
      (∀ name ∈ names, Admits name s) ∧ ts = names.map Builtin.type ∧ s' = fill names s := by
  induction names generalizing s s' ts with
  | nil =>
    have hfill : fill [] s = s := by simp [fill]
    simp [createExtending, hfill, eq_comm]
  | cons name names ih =>
    obtain ⟨hnotBase, hnodup⟩ := List.nodup_cons.1 hnodup
    obtain ⟨hnotName, hnodup⟩ := List.nodup_cons.1 hnodup
    rw [List.mem_cons, not_or] at hnotBase
    rw [List.forall_mem_cons] at hnames
    have hmerged : (mergedFields (some Builtin.baseName) .empty).runOn s =
        (.ok Builtin.baseFields, s) :=
      typeNamed_bind_runOn_eq_ok.2 ⟨_, hbase, rfl⟩
    refine cons_runOn_eq_ok hnotName (fun _ _ => ?_) fun _ _ _ => ?_
    · exact createType_builtin_runOn_eq_ok hversion hnames.1
        (if_neg (Ne.symm hnotBase.1)) hmerged
    · exact ih (version_fill hversion) ((findType_fill_of_ne hnotBase.1).trans hbase)
        (List.nodup_cons.2 ⟨hnotBase.2, hnodup⟩) hnames.2

/-- Seeding registers the built-in types exactly if their names are admitted. -/
theorem seedTypes_runOn_eq_ok (hversion : ∀ r ∈ s.types, r.version = 1) :
    (seedTypes scope).runOn s = (.ok ts, s') ↔
      (∀ name ∈ Builtin.names, Admits name s) ∧ ts = Builtin.names.map Builtin.type ∧
        s' = fill Builtin.names s := by
  have hcheck := @Builtin.checkName_of_mem
  have hnodup : (Builtin.baseName :: Builtin.extendingNames).Nodup := Builtin.nodup_names
  rw [seedTypes, transaction_runOn_eq_ok]
  refine cons_runOn_eq_ok (List.nodup_cons.1 hnodup).1 (fun _ _ => ?_) fun hadmits _ _ => ?_
  · exact createType_builtin_runOn_eq_ok hversion (hcheck List.mem_cons_self) rfl rfl
  · exact createExtending_runOn_eq_ok (version_fill hversion)
      (findType_fill hversion (List.mem_singleton_self _) hadmits) hnodup
      fun name hname => hcheck (List.mem_cons_of_mem _ hname)

/-- **Seeding is all or nothing.** It succeeds exactly if each of the seven built-in names is free
or has the fields of the system already. It answers with all seven then, and leaves the store as it
was but for rows at the end of the registry for the names that were free, in their order. Seeding
again gives the same and changes nothing. Where it fails, the store is as before. -/
theorem seedTypes_all_or_nothing (hs : Reachable s) :
    ((∃ ts s', (seedTypes .own).runOn s = (.ok ts, s')) ↔
        ∀ name ∈ Builtin.names,
          findType name s = .ok none ∨
            ∃ t, findType name s = .ok (some t) ∧ t.fields = Builtin.baseFields) ∧
      (∀ ts s', (seedTypes .own).runOn s = (.ok ts, s') →
        ts = Builtin.names.map Builtin.type ∧
          s' = { s with types := s.types ++ (Builtin.names.filter fun name =>
            ∀ r ∈ s.types, r.name ≠ name).map builtinRow } ∧
          (∀ name ∈ Builtin.names, findType name s' = .ok (some (Builtin.type name))) ∧
          (seedTypes .own).runOn s' = (.ok ts, s')) ∧
      ∀ e s', (seedTypes .own).runOn s = (.error e, s') → s' = s := by
  have hversion : ∀ r ∈ s.types, r.version = 1 := fun r hr =>
    ((named_of_reachable hs).types r hr).version
  simp only [findType_eq_none]
  refine ⟨?_, fun ts s' h => ?_, guarded_transaction_own _ s⟩
  · constructor
    · rintro ⟨ts, s', h⟩
      exact ((seedTypes_runOn_eq_ok hversion).1 h).1
    · intro hadmits
      exact ⟨_, _, (seedTypes_runOn_eq_ok hversion).2 ⟨hadmits, rfl, rfl⟩⟩
  · obtain ⟨hadmits, rfl, rfl⟩ := (seedTypes_runOn_eq_ok hversion).1 h
    have hfound : ∀ name ∈ Builtin.names,
        findType name (fill Builtin.names s) = .ok (some (Builtin.type name)) :=
      fun name hname => findType_fill hversion hname (hadmits name hname)
    refine ⟨rfl, rfl, hfound, (seedTypes_runOn_eq_ok (version_fill hversion)).2 ⟨?_, rfl, ?_⟩⟩
    · exact fun name hname => .inr ⟨_, hfound name hname, rfl⟩
    · exact (fill_fill _ _).symm

/-! ## A registry filled in part -/

/-- One built-in name is taken with the fields of the system, without what it extends, and another
type is there. -/
def partRun : List Operation :=
  [.createType none "system.bug" Builtin.baseFields, .createType none "t" .empty]

theorem types_partRun : (run partRun empty).2.types =
    [⟨"system.bug", 1, none, Builtin.baseFields.text⟩, ⟨"t", 1, none, FieldSet.text .empty⟩] :=
  rfl

theorem admits_partRun {name : String} (hname : name ∈ Builtin.names) :
    findType name (run partRun empty).2 = .ok none ∨
      ∃ t, findType name (run partRun empty).2 = .ok (some t) ∧ t.fields = Builtin.baseFields := by
  by_cases hbug : name = "system.bug"
  · subst hbug
    have hread : TypeRow.read ⟨"system.bug", 1, none, Builtin.baseFields.text⟩ =
        .ok (Builtin.type "system.bug") :=
      (read_eq_ok rfl).2 ⟨Builtin.ofText_text_baseFields, rfl, rfl⟩
    refine .inr ⟨_, (findType_eq_ok_of_row ?_).2 hread, rfl⟩
    rw [types_partRun]
    rfl
  · have hother : name ≠ "t" := by
      rintro rfl
      exact absurd hname (by decide)
    rw [findType_eq_none, types_partRun]
    simp [Ne.symm hbug, hother.symm]

/-- The name that was taken keeps its place, and the other six come after what was there. -/
theorem seedTypes_all_or_nothing_partRun : ∃ ts s',
    (seedTypes .own).runOn (run partRun empty).2 = (.ok ts, s') ∧
      s'.types.map (·.name) = ["system.bug", "t", "system.workitem", "system.feature",
        "system.userstory", "system.experience", "system.fundamental",
        "system.valueproposition"] := by
  obtain ⟨hiff, hok, -⟩ := seedTypes_all_or_nothing (s := (run partRun empty).2) ⟨partRun, rfl⟩
  obtain ⟨ts, s', h⟩ := hiff.2 fun _ => admits_partRun
  obtain ⟨-, rfl, -⟩ := hok ts s' h
  refine ⟨ts, _, h, ?_⟩
  simp only [types_partRun]
  rfl

end Store

end Backlog
