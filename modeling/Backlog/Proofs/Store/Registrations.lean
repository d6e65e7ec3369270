import Backlog.Proofs.Store.Registry

/-!
# What a run has registered

A type is registered one at a time, also when the built-in types are (`creates_of_run`).

**Main statements.** A registration that succeeded in a run is settled after it (`Settled`,
`settled_of_mem_registered`): the type that it extends is still found, and its own row still holds
what it answered, or is read as that. Every row of the registry has the first version and a name of
letters and dots, and so every item has such a type (`named_of_reachable`).
-/

namespace Backlog.Store

open Store.Action

variable {s s' s'' : Store} {op : Operation} {ops : List Operation} {t : ItemType}

/-- A type to register: its name, and fields of its own over those of the type that it extends. -/
structure Registration where
  extended : Option String
  name : String
  own : FieldSet

variable {g : Registration} {done : List (Registration × ItemType)}

/-! ## One after the other -/

/-- Registrations that succeed one after the other, with what each of them answers. -/
inductive Creates : List (Registration × ItemType) → Store → Store → Prop
  | nil (s : Store) : Creates [] s s
  | cons {g : Registration} {t : ItemType} {done : List (Registration × ItemType)}
    {s s' s'' : Store} {scope : Scope}
    (first : (createType scope g.extended g.name g.own).runOn s = (.ok t, s'))
    (more : Creates done s' s'') : Creates ((g, t) :: done) s s''

theorem Creates.registers (h : Creates done s s') : Registers s s' := by
  induction h with
  | nil => exact .refl _
  | cons first _ ih => exact (registers_of_createType first).trans ih

/-- The registration of a type that extends the base type without fields of its own. -/
def builtin (name : String) : Registration := ⟨some Builtin.baseName, name, .empty⟩

theorem creates_of_createExtending {names : List String} {ts : List ItemType}
    (h : (createExtending names).runOn s = (.ok ts, s')) :
    Creates ((names.map builtin).zip ts) s s' := by
  induction names generalizing s ts with
  | nil =>
    cases h
    exact .nil _
  | cons name names ih =>
    obtain ⟨t, _, hfirst, h⟩ := bind_runOn_eq_ok.1 h
    obtain ⟨rest, _, hrest, h⟩ := bind_runOn_eq_ok.1 h
    cases h
    exact .cons (g := builtin name) hfirst (ih hrest)

/-! ## Operations -/

/-- What an operation registers. -/
def Operation.registrations : Operation → List Registration
  | .createType extended name own => [⟨extended, name, own⟩]
  | .seedTypes => ⟨none, Builtin.baseName, Builtin.baseFields⟩ :: Builtin.extendingNames.map builtin
  | _ => []

/-- The types that an answer gives. -/
def typesOf : Except Error Answer → List ItemType
  | .ok (.itemType t) => [t]
  | .ok (.itemTypes ts) => ts
  | _ => []

/-- What an operation registers, with what was answered to it. -/
def Operation.registered (op : Operation) (a : Except Error Answer) :
    List (Registration × ItemType) := op.registrations.zip (typesOf a)

/-- A registration succeeds one type at a time, and all else leaves the registry as it is. -/
theorem creates_of_run {a : Answer} (h : op.run s = (.ok a, s')) :
    ∃ m, Creates (op.registered (.ok a)) s m ∧ s'.types = m.types := by
  cases op with
  | createType extended name own =>
    obtain ⟨t, ht, rfl⟩ := map_runOn_eq_ok.1 h
    exact ⟨s', .cons (g := ⟨extended, name, own⟩) ht (.nil s'), rfl⟩
  | seedTypes =>
    obtain ⟨ts, hts, rfl⟩ := map_runOn_eq_ok.1 h
    obtain ⟨base, m, hbase, hts⟩ := bind_runOn_eq_ok.1 (transaction_runOn_eq_ok.1 hts)
    obtain ⟨rest, m', hrest, hts⟩ := bind_runOn_eq_ok.1 hts
    cases hts
    exact ⟨s', .cons (g := ⟨none, Builtin.baseName, Builtin.baseFields⟩) hbase
      (creates_of_createExtending hrest), rfl⟩
  | _ =>
    refine ⟨s, .nil s, ?_⟩
    cases Operation.effect_of_run h <;> rfl

/-! ## Rows -/

/-- The row has a name of letters and dots, and the first version. -/
structure TypeRow.Proper (r : TypeRow) : Prop where
  name : ItemType.checkName r.name = .ok ()
  version : r.version = 1

theorem proper_of_createType {scope : Scope} {extended : Option String} {name : String}
    {own : FieldSet} (h : (createType scope extended name own).runOn s = (.ok t, s'))
    (hs : ∀ r ∈ s.types, TypeRow.Proper r) : ∀ r ∈ s'.types, TypeRow.Proper r := by
  obtain ⟨merged, hname, -, ⟨-, -, rfl⟩ | ⟨-, -, rfl⟩⟩ := createType_runOn_eq_ok h
  · exact hs
  · intro r hr
    rcases List.mem_append.1 hr with hr | hr
    · exact hs r hr
    · rw [List.mem_singleton.1 hr]
      exact ⟨hname, rfl⟩

theorem Creates.proper (h : Creates done s s') (hs : ∀ r ∈ s.types, TypeRow.Proper r) :
    ∀ r ∈ s'.types, TypeRow.Proper r := by
  induction h with
  | nil => exact hs
  | cons first _ ih => exact ih (proper_of_createType first hs)

/-- An operation leaves every row of the registry proper. -/
theorem proper_run (op : Operation) (hs : ∀ r ∈ s.types, TypeRow.Proper r) :
    ∀ r ∈ (op.run s).2.types, TypeRow.Proper r := by
  rcases op.run_cases s with ⟨e, he⟩ | ⟨a, s', hs', -⟩
  · rwa [he]
  · obtain ⟨m, hcreates, htypes⟩ := creates_of_run hs'
    rw [hs', htypes]
    exact hcreates.proper hs

/-! ## Names of types -/

/-- Types are proper, and items bear names such as those of types. -/
structure Named (s : Store) : Prop where
  types : ∀ r ∈ s.types, TypeRow.Proper r
  items : ∀ r ∈ s.items, ItemType.checkName r.typeName = .ok ()

theorem Named.checkName_of_findType {name : String} (h : Named s)
    (ht : findType name s = .ok (some t)) : ItemType.checkName t.name = .ok () := by
  rw [name_of_findType ht]
  rw [findType.eq_def] at ht
  cases hr : s.types.find? (·.name = name) with
  | none =>
    rw [hr] at ht
    cases ht
  | some r =>
    have hname : r.name = name := by simpa using List.find?_some hr
    exact hname ▸ (h.types r (List.mem_of_find?_eq_some hr)).name

theorem Named.mapItem {k : Nat} {f : ItemRow → ItemRow} (h : Named s)
    (hf : ∀ r ∈ s.items, ItemType.checkName (f r).typeName = .ok ()) :
    ∀ r ∈ (mapItem k f s).items, ItemType.checkName r.typeName = .ok () := by
  intro r hr
  obtain ⟨q, hq, rfl⟩ := List.mem_map.1 hr
  split
  · exact hf q hq
  · exact h.items q hq

theorem Named.run_one (h : Named s) (op : Operation) : Named (op.run s).2 := by
  refine ⟨proper_run op h.types, ?_⟩
  rcases op.run_cases s with ⟨e, he⟩ | ⟨a, s', hs', heffect⟩
  · rw [he]
    exact h.items
  rw [hs']
  cases heffect with
  | seedTypes grows | createType grows =>
    obtain ⟨rows, rfl⟩ := grows.exists_append
    exact h.items
  | createItem type =>
    intro r hr
    rcases List.mem_append.1 hr with hr | hr
    · exact h.items r hr
    · rw [List.mem_singleton.1 hr]
      exact h.checkName_of_findType type
  | saveItem _ _ _ type | assignItem _ _ _ _ _ type =>
    exact h.mapItem fun _ _ => h.checkName_of_findType type
  | deleteItem => exact h.mapItem h.items
  | looks | createIdentity | createIteration | createChild | saveIteration | moveIteration =>
    exact h.items

theorem named_of_reachable (h : Reachable s) : Named s := by
  obtain ⟨ops, rfl⟩ := h
  have hrun : ∀ s : Store, Named s → Named (run ops s).2 := by
    induction ops with
    | nil => exact fun _ hs => hs
    | cons op ops ih => exact fun _ hs => ih _ (hs.run_one op)
  exact hrun empty ⟨by simp [empty], by simp [empty]⟩

/-! ## What stays of a registration -/

/-- What a registration asked for and answered agrees with the registry: the fields asked for, with
those of the type that it extends, are those answered, and its row holds them or is read as them. -/
structure Settled (s : Store) (g : Registration) (t : ItemType) : Prop where
  name : t.name = g.name
  fields : ∃ merged, (mergedFields g.extended g.own).runOn s = (.ok merged, s) ∧
    t.fields.same merged = true
  row : ∃ r, s.types.find? (·.name = g.name) = some r ∧
    (TypeRow.read r = .ok t ∨ r.fieldsText = t.fields.text)

theorem Settled.of_isPrefix (h : Settled s g t) (hkept : s.types <+: s'.types) :
    Settled s' g t := by
  obtain ⟨hname, ⟨merged, hmerged, hsame⟩, r, hr, hread⟩ := h
  exact ⟨hname, ⟨merged, mergedFields_of_isPrefix hkept hmerged, hsame⟩, r,
    find?_row_of_isPrefix hkept hr, hread⟩

theorem settled_of_createType {scope : Scope}
    (h : (createType scope g.extended g.name g.own).runOn s = (.ok t, s')) : Settled s' g t := by
  have hkept := types_isPrefix_of_registers (registers_of_createType h)
  obtain ⟨merged, -, hmerged, hsame⟩ := same_of_createType h
  have hfields := mergedFields_of_isPrefix hkept hmerged
  obtain ⟨hname, r, hr, -⟩ := exists_row_of_createType h
  refine ⟨hname, ⟨merged, hfields, hsame⟩, r, hr, ?_⟩
  obtain ⟨_, -, -, ⟨hfound, -, rfl⟩ | ⟨hnew, rfl, rfl⟩⟩ := createType_runOn_eq_ok h
  · exact .inl ((findType_eq_ok_of_row hr).1 hfound)
  · have hfresh : s.types.find? (·.name = g.name) = none := by
      simpa using findType_eq_none.1 hnew
    rw [List.find?_append, hfresh] at hr
    obtain rfl : _ = r := by simpa using hr
    exact .inr rfl

theorem Creates.settled (h : Creates done s s') {p : Registration × ItemType} (hp : p ∈ done) :
    Settled s' p.1 p.2 := by
  induction h with
  | nil => cases hp
  | cons first more ih =>
    rcases List.mem_cons.1 hp with rfl | hp
    · exact (settled_of_createType first).of_isPrefix (types_isPrefix_of_registers more.registers)
    · exact ih hp

/-! ## Runs -/

/-- What the operations of a run have registered, with what was answered. -/
def registered (ops : List Operation) (s : Store) : List (Registration × ItemType) :=
  (ops.zip (run ops s).1).flatMap fun asked => asked.1.registered asked.2

theorem registered_cons (op : Operation) (ops : List Operation) (s : Store) :
    registered (op :: ops) s = op.registered (op.run s).1 ++ registered ops (op.run s).2 := by
  rw [registered, run, List.zip_cons_cons, List.flatMap_cons]
  rfl

theorem mem_registrations_of_registered {p : Registration × ItemType} (hp : p ∈ registered ops s) :
    ∃ op ∈ ops, p.1 ∈ op.registrations := by
  obtain ⟨asked, hasked, hp⟩ := List.mem_flatMap.1 hp
  exact ⟨asked.1, (List.of_mem_zip hasked).1, (List.of_mem_zip hp).1⟩

theorem settled_of_mem_registered (ops : List Operation) (s : Store)
    {p : Registration × ItemType} (hp : p ∈ registered ops s) : Settled (run ops s).2 p.1 p.2 := by
  induction ops generalizing s with
  | nil => cases hp
  | cons op ops ih =>
    rw [registered_cons] at hp
    rcases List.mem_append.1 hp with hp | hp
    · have hsettled : Settled (op.run s).2 p.1 p.2 := by
        rcases op.run_cases s with ⟨e, he⟩ | ⟨a, s', hs', -⟩
        · rw [he] at hp
          simp [Operation.registered, typesOf] at hp
        · rw [hs'] at hp ⊢
          obtain ⟨m, hcreates, htypes⟩ := creates_of_run hs'
          exact (hcreates.settled hp).of_isPrefix (htypes ▸ List.prefix_refl _)
      exact hsettled.of_isPrefix (types_isPrefix_run ops _)
    · exact ih _ hp

end Backlog.Store
