import Backlog.Proofs.Store.Causes

/-!
# Why operations on items fail for reasons of the store

Of what a caller gives, two things come through to the store unseen: how deep values nest, and a NUL
in the name of a field. The rest is in the rows: a version that has no next one, and what was
written but cannot be read back (`ItemRow.Unread`).

Every lemma says exactly when an operation fails so. Everything that is looked at before has to be
in order then, since the first failure counts.
-/

namespace Backlog.Store

open Store.Action

variable {s : Store} {k : Nat} {r : ItemRow} {t : ItemType} {id : String} {now : Int}
  {scope : Scope} {stored : Record Json}

/-! ## Stores of runs -/

/-- What holds of the rows of every store that a run leads to. -/
structure Intact (s : Store) : Prop where
  kept : ∀ r ∈ s.items, ∃ t stored, ItemRow.Kept s r t stored
  nonneg : ∀ r ∈ s.items, 0 ≤ r.version
  readable : ∀ r ∈ s.items, r.unreadable = none
  identified : AllIdentified s
  hold : AllHold s
  distinct : (s.iterations.map (·.id)).Nodup

/-- Operations leave no row behind that cannot be read. -/
theorem readable_run (ops : List Operation) :
    ∀ r ∈ (run ops empty).2.items, r.unreadable = none := by
  let readable : Store → Prop := fun s => ∀ r ∈ s.items, r.unreadable = none
  have hmap {s : Store} {k : Nat} {f : ItemRow → ItemRow} (h : readable s)
      (hf : ∀ r, r.unreadable = none → (f r).unreadable = none) : readable (mapItem k f s) := by
    intro r hr
    obtain ⟨q, hq, rfl⟩ := List.mem_map.1 hr
    split
    · exact hf q (h q hq)
    · exact h q hq
  refine run_induction (P := readable) ops (fun r hr => ?_) fun _ h heffect => ?_
  · cases hr
  cases heffect with
  | seedTypes grows | createType grows =>
    obtain ⟨rows, rfl⟩ := grows.exists_append
    exact h
  | createItem =>
    intro r hr
    rcases List.mem_append.1 hr with hr | hr
    · exact h r hr
    · rw [List.mem_singleton.1 hr]
  | saveItem | assignItem => exact hmap h fun _ _ => rfl
  | deleteItem => exact hmap h fun _ hr => hr
  | looks | createIdentity | createIteration | createChild | saveIteration | moveIteration =>
    exact h

theorem Intact.run {ops : List Operation} (h : ∀ op ∈ ops, op.WellFormed) :
    Intact (run ops empty).2 where
  kept := AllKept.run h
  nonneg _ := version_nonneg
  readable := readable_run ops
  identified := .run ops
  hold := .run ops
  distinct := (OneStarted.run ops).distinct

/-! ## Rows of items -/

/-- What the row holds nests deeper than is read, or a floating number in it cannot be read. -/
def ItemRow.Unread (s : Store) (r : ItemRow) : Prop :=
  ∃ t stored, ItemRow.Kept s r t stored ∧
    (Json.depthLimit < (Json.ofRecord stored).depth ∨ ¬ ∃ held, stored.Rereads held)

theorem faulty_readFields (h : ∃ t stored, ItemRow.Kept s r t stored) :
    Faulty (ItemRow.readFields r) ↔ ItemRow.Unread s r := by
  have hunread {t : ItemType} {stored : Record Json} (hkept : ItemRow.Kept s r t stored) :
      Faulty (ItemRow.readFields r) ↔
        Json.depthLimit < (Json.ofRecord stored).depth ∨ ¬ ∃ held, stored.Rereads held := by
    have hread : Faulty (ItemRow.readFields r) ↔ ¬ ∃ held, ItemRow.readFields r = .ok held := by
      rw [ItemRow.readFields, faulty_mapError fun e => ⟨_, rfl⟩]
      simp only [mapError_eq_ok]
    rw [hread]
    simp only [readFields_eq_ok hkept, exists_and_left, not_and_or, Nat.not_le]
  constructor
  · intro hfaulty
    obtain ⟨t, stored, hkept⟩ := h
    exact ⟨t, stored, hkept, (hunread hkept).1 hfaulty⟩
  · rintro ⟨t, stored, hkept, hcause⟩
    exact (hunread hkept).2 hcause

@[simp]
theorem not_faulty_toWire (t : ItemType) (stored : Record Json) :
    ¬ Faulty (t.fields.toWire stored) := t.fields.not_faulty_convert _ _

@[simp]
theorem not_faulty_toStorage (t : ItemType) (input : Record Json) :
    ¬ Faulty (t.fields.toStorage input) := t.fields.not_faulty_convert _ _

theorem not_faults_shown {α : Type} (f : Record Json → α) :
    ¬ Faults (ofResult (t.fields.toWire stored) >>= fun shown => pure (f shown)) s := by
  simp

theorem faulty_show (h : ∃ t stored, ItemRow.Kept s r t stored) :
    Faulty (ItemRow.show t r) ↔ ItemRow.Unread s r := by
  rw [ItemRow.show, faulty_bind, faulty_readFields h]
  refine or_iff_left ?_
  rintro ⟨held, -, hshow⟩
  rcases faulty_bind.1 hshow with hshow | ⟨_, -, hshow⟩
  · exact not_faulty_toWire t held hshow
  · exact not_faulty_ok _ hshow

/-- The type of a kept row is there. -/
theorem not_faulty_storedType (h : ∃ t stored, ItemRow.Kept s r t stored) :
    ¬ Faulty (storedType r.typeName s) := by
  obtain ⟨t, stored, ht, -⟩ := h
  simp [storedType_eq_ok.2 ht]

theorem faults_itemIdOf_bind {α : Type} {g : Nat → Action α} :
    Faults (itemIdOf id >>= g) s ↔ ∃ k, itemId? id = some k ∧ Faults (g k) s := by
  rw [itemIdOf.eq_def]
  cases itemId? id <;> simp

theorem faults_liveRow_bind {α : Type} {g : ItemRow → Action α} (h : Intact s) :
    Faults (liveRow k id >>= g) s ↔ ∃ r, findLive k s = .ok (some r) ∧ Faults (g r) s := by
  have hfind : ¬ Faulty (findLive k s) := by
    rw [findLive.eq_def]
    split
    · simp
    next r hr => simp [h.readable r (List.mem_of_find?_eq_some hr)]
  have hrow : ¬ Faults (liveRow k id) s := by
    rwa [liveRow, faults_lookup (fun _ => rfl) rfl (by simp)]
  simp [faults_bind, hrow, liveRow_runOn_eq_ok]

/-! ## Statements -/

theorem faulty_storedText :
    Faulty (storedText stored) ↔ Stored.depthLimit < (Json.ofRecord stored).depth := by
  rw [storedText]
  split
  next h => simpa using h
  next h => simpa [checkFailed] using h

theorem faults_insertItem {typeName : String} :
    Faults (insertItem typeName stored now) s ↔
      Stored.depthLimit < (Json.ofRecord stored).depth := by
  have hid (t : Store) : ¬ Faults (get >>= fun s => pure s.lastItem) t := not_faults_look _ t
  rw [insertItem, faults_bind_of_not fun _ => hid, faults_statement]
  simp [faulty_storedText]

theorem faults_updateItem {typeName : String} {version : Int} :
    Faults (updateItem k typeName version stored now) s ↔
      version < 0 ∨ Stored.depthLimit < (Json.ofRecord stored).depth := by
  rw [updateItem, faults_statement]
  by_cases h : version < 0
  · simp [faulty_bind, h, checkFailed]
  · simp [h, faulty_storedText]

/-- A write over a row fails so for the last version, and for values that nest too deep. -/
theorem faults_writeRow (h : 0 ≤ r.version) : Faults (writeRow now t r stored) s ↔
    r.version = 9223372036854775807 ∨ Stored.depthLimit < (Json.ofRecord stored).depth := by
  have hversion : nextVersion r.version < 0 ↔ r.version = 9223372036854775807 := by
    have := nextVersion_nonneg_iff h
    omega
  rw [writeRow, faults_bind_of_not fun _ _ => not_faults_shown _, faults_updateItem, hversion]

/-! ## Operations on items -/

/-- A conversion to storage leaves values that nest too deep as deep as they were. -/
theorem deep_iff {input : Record Json} (h : t.fields.toStorage input = .ok stored) :
    Stored.depthLimit < (Json.ofRecord stored).depth ↔
      Stored.depthLimit < (Json.ofRecord input).depth := by
  have hdepth : (Json.ofRecord stored).depth ≤ 1000 ↔ (Json.ofRecord input).depth ≤ 1000 :=
    FieldSet.depth_convert_le_iff h
  rw [Stored.depthLimit]
  omega

/-- Creating an item fails so exactly if all is well with it but for how deep its values nest. -/
theorem faults_createItem {typeName creator : String} {fields : Record Json} :
    Faults (createItem scope now typeName fields creator) s ↔
      (Text.trim typeName).isEmpty = false ∧ (Text.trim creator).isEmpty = false ∧
        ∃ t stored, findType typeName s = .ok (some t) ∧
          t.fields.toStorage (fields.insert WorkItem.creatorField (.str creator)) = .ok stored ∧
          Stored.depthLimit <
            (Json.ofRecord (fields.insert WorkItem.creatorField (.str creator))).depth := by
  rw [createItem]
  cases htype : (Text.trim typeName).isEmpty with
  | true => simp
  | false =>
    cases hcreator : (Text.trim creator).isEmpty with
    | true => simp
    | false =>
      simp only [Bool.false_eq_true, if_false, true_and, faults_transaction]
      rw [faults_bind, or_iff_right (not_faults_typeNamed _ _)]
      simp only [typeNamed_runOn_eq_ok, faults_ofResult_bind, not_faulty_toStorage, false_or]
      constructor
      · rintro ⟨t, _, ⟨ht, rfl⟩, stored, hstored, hfaults⟩
        rw [faults_bind_of_not fun _ _ => not_faults_shown _, faults_insertItem, deep_iff hstored]
          at hfaults
        exact ⟨t, stored, ht, hstored, hfaults⟩
      · rintro ⟨t, stored, ht, hstored, hdeep⟩
        refine ⟨t, s, ⟨ht, rfl⟩, stored, hstored, ?_⟩
        rwa [faults_bind_of_not fun _ _ => not_faults_shown _, faults_insertItem, deep_iff hstored]

theorem faults_loadItem (h : Intact s) : Faults (loadItem id) s ↔
    ∃ k r, itemId? id = some k ∧ findLive k s = .ok (some r) ∧ ItemRow.Unread s r := by
  rw [loadItem, faults_itemIdOf_bind]
  simp only [faults_liveRow_bind h, ← exists_and_left]
  refine exists₂_congr fun k r => and_congr_right fun _ => and_congr_right fun hr => ?_
  have hkept := h.kept r (live_of_findLive hr).1
  rw [faults_get_bind, faults_ofResult_bind, or_iff_right (not_faulty_storedType hkept)]
  simp only [faults_ofResult, faulty_show hkept, exists_and_right]
  obtain ⟨t, stored, ht, -⟩ := hkept
  exact and_iff_right ⟨t, storedType_eq_ok.2 ht⟩

/-- Saving an item fails so exactly if all is well with it but for the version or for how deep its
values nest. -/
theorem faults_saveItem {checked : Bool} {item : WorkItem} (h : Intact s) :
    Faults (saveItem scope now checked item) s ↔
      ∃ k r t stored, itemId? item.id = some k ∧ findLive k s = .ok (some r) ∧
        (checked = true → r.version = item.version) ∧ findType item.typeName s = .ok (some t) ∧
        t.fields.toStorage item.fields = .ok stored ∧
        (r.version = 9223372036854775807 ∨
          Stored.depthLimit < (Json.ofRecord item.fields).depth) := by
  rw [saveItem, faults_itemIdOf_bind]
  simp only [faults_transaction, faults_liveRow_bind h]
  constructor
  · rintro ⟨k, hk, r, hr, hfaults⟩
    split at hfaults
    · simp at hfaults
    next hchecked =>
      rw [faults_get_bind, faults_ofResult_bind] at hfaults
      rcases hfaults with hfaults | ⟨found, hfound, hfaults⟩
      · exact absurd hfaults (not_faulty_findType _ _)
      cases found with
      | none => simp at hfaults
      | some t =>
        simp only [faults_ofResult_bind, not_faulty_toStorage, false_or] at hfaults
        obtain ⟨stored, hstored, hfaults⟩ := hfaults
        rw [faults_writeRow (h.nonneg r (live_of_findLive hr).1), deep_iff hstored] at hfaults
        have hseen : checked = true → r.version = item.version := by simpa using hchecked
        exact ⟨k, r, t, stored, hk, hr, hseen, hfound, hstored, hfaults⟩
  · rintro ⟨k, r, t, stored, hk, hr, hseen, ht, hstored, hcause⟩
    refine ⟨k, hk, r, hr, ?_⟩
    have hchecked : ¬ (checked = true ∧ r.version ≠ item.version) := by simpa using hseen
    rw [if_neg hchecked, faults_get_bind, faults_ofResult_bind]
    refine .inr ⟨some t, ht, ?_⟩
    rw [faults_ofResult_bind]
    refine .inr ⟨stored, hstored, ?_⟩
    rwa [faults_writeRow (h.nonneg r (live_of_findLive hr).1), deep_iff hstored]

theorem not_faults_assigned {held : Record Json} {assignee : Option String} :
    ¬ Faults (assigned held assignee) s := by
  cases assignee with
  | none => exact not_faults_pure _ _
  | some given =>
    rw [assigned]
    split
    · simp
    · rw [faults_get_bind]
      split <;> simp

/-- What is read does not nest too deep to be written, whoever it is assigned to. -/
theorem depth_of_assigned {held edited wire : Record Json} {assignee : Option String}
    (hkept : ∃ t stored, ItemRow.Kept s r t stored) (hread : ItemRow.readFields r = .ok held)
    (hedit : (assigned held assignee).runOn s = (.ok edited, s))
    (hwire : t.fields.toWire edited = .ok wire) (hstored : t.fields.toStorage wire = .ok stored) :
    (Json.ofRecord stored).depth ≤ Stored.depthLimit := by
  obtain ⟨_, before, hkept⟩ := hkept
  obtain ⟨hdepth, hrereads⟩ := (readFields_eq_ok hkept).1 hread
  have hsame : (Json.ofRecord held).depth = (Json.ofRecord before).depth :=
    congrArg (1 + ·) (Json.depthMembers_of_reread hrereads)
  rw [← hsame] at hdepth
  have hedited : (Json.ofRecord edited).depth ≤ Json.depthLimit := by
    obtain ⟨-, rfl | ⟨_, user, -, -, -, rfl⟩⟩ := assigned_runOn_eq_ok hedit
    · exact Nat.le_trans (held.depth_erase_le _) hdepth
    · exact Record.depth_insert_le hdepth _ (Nat.zero_le _)
  have hconverted : (Json.ofRecord stored).depth ≤ Json.depthLimit :=
    (FieldSet.depth_convert_le_iff hstored).2 ((FieldSet.depth_convert_le_iff hwire).2 hedited)
  exact Nat.le_trans hconverted (by decide)

/-- Assigning an item fails so exactly if what it holds cannot be read, or if all is well with it
but for the version. -/
theorem faults_assignItem {version : String} {assignee : Option String} (h : Intact s) :
    Faults (assignItem scope now id version assignee) s ↔
      ∃ k r, itemId? id = some k ∧ findLive k s = .ok (some r) ∧
        version = String.ofList (Json.intChars r.version) ∧
        (ItemRow.Unread s r ∨ r.version = 9223372036854775807 ∧
          ∃ held edited t wire stored, ItemRow.readFields r = .ok held ∧
            (assigned held assignee).runOn s = (.ok edited, s) ∧
            findType r.typeName s = .ok (some t) ∧ t.fields.toWire edited = .ok wire ∧
            t.fields.toStorage wire = .ok stored) := by
  rw [assignItem, faults_itemIdOf_bind]
  simp only [faults_transaction, faults_liveRow_bind h]
  constructor
  · rintro ⟨k, hk, r, hr, hfaults⟩
    have hmem := (live_of_findLive hr).1
    split at hfaults
    · simp at hfaults
    next hseen =>
      refine ⟨k, r, hk, hr, by simpa using hseen, ?_⟩
      rw [faults_ofResult_bind, faulty_readFields (h.kept r hmem)] at hfaults
      refine hfaults.imp_right ?_
      rintro ⟨held, hheld, hfaults⟩
      rcases faults_bind.1 hfaults with hfaults | ⟨edited, _, hedit, hfaults⟩
      · exact absurd hfaults not_faults_assigned
      obtain ⟨rfl, -⟩ := assigned_runOn_eq_ok hedit
      rw [faults_get_bind, faults_ofResult_bind,
        or_iff_right (not_faulty_storedType (h.kept r hmem))] at hfaults
      obtain ⟨t, ht, hfaults⟩ := hfaults
      simp only [faults_ofResult_bind, not_faulty_toWire, not_faulty_toStorage, false_or] at hfaults
      obtain ⟨wire, hwire, stored, hstored, hfaults⟩ := hfaults
      have hdepth := depth_of_assigned (h.kept r hmem) hheld hedit hwire hstored
      rw [faults_writeRow (h.nonneg r hmem), or_iff_left (Nat.not_lt.2 hdepth)] at hfaults
      exact ⟨hfaults, held, edited, t, wire, stored, hheld, hedit, storedType_eq_ok.1 ht, hwire,
        hstored⟩
  · rintro ⟨k, r, hk, hr, rfl, hcause⟩
    have hmem := (live_of_findLive hr).1
    refine ⟨k, hk, r, hr, ?_⟩
    simp only [ne_eq, not_true_eq_false, if_false]
    rw [faults_ofResult_bind, faulty_readFields (h.kept r hmem)]
    refine hcause.imp_right ?_
    rintro ⟨hlast, held, edited, t, wire, stored, hheld, hedit, ht, hwire, hstored⟩
    refine ⟨held, hheld, faults_bind.2 (.inr ⟨edited, s, hedit, ?_⟩)⟩
    rw [faults_get_bind, faults_ofResult_bind]
    refine .inr ⟨t, storedType_eq_ok.2 ht, ?_⟩
    simp only [faults_ofResult_bind, not_faulty_toWire, not_faulty_toStorage, false_or]
    exact ⟨wire, hwire, stored, hstored, (faults_writeRow (h.nonneg r hmem)).2 (.inl hlast)⟩

theorem not_faults_deleteItem : ¬ Faults (deleteItem now id) s := by
  rw [deleteItem, faults_itemIdOf_bind]
  rintro ⟨k, -, hfaults⟩
  rw [faults_statement] at hfaults
  split at hfaults <;> simp at hfaults

/-! ## Lists -/

theorem faulty_selects {p : Predicate} {params : List Datum} :
    Faulty (selects p params r) ↔ ¬ ∃ b, selects p params r = .ok b := by
  rw [selects, faulty_mapError fun e => ⟨_, rfl⟩]
  simp only [mapError_eq_ok]

/-- Selecting goes through all rows, and no row is refused for a reason of the caller's. -/
theorem faulty_selected {p : Predicate} {params : List Datum} {rows : List ItemRow} :
    Faulty (selected p params rows) ↔ ∃ r ∈ rows, ¬ ∃ b, selects p params r = .ok b := by
  induction rows with
  | nil => simp [selected]
  | cons r rows ih =>
    rw [selected, faulty_bind, faulty_selects, List.exists_mem_cons_iff, ← ih]
    by_cases hfirst : ∃ b, selects p params r = .ok b
    · obtain ⟨b, hb⟩ := hfirst
      simp [hb]
    · exact iff_of_true (.inl hfirst) (.inl hfirst)

theorem exists_selected {p : Predicate} {params : List Datum} {rows : List ItemRow}
    (h : ∀ r ∈ rows, ∃ b, selects p params r = .ok b) :
    ∃ kept, selected p params rows = .ok kept := by
  induction rows with
  | nil => exact ⟨[], rfl⟩
  | cons r rows ih =>
    obtain ⟨⟨b, hb⟩, hrest⟩ := List.forall_mem_cons.1 h
    obtain ⟨kept, hkept⟩ := ih hrest
    exact ⟨if b then r :: kept else kept, by rw [selected, hb, ok_bind, hkept]; rfl⟩

/-- A field that a path cannot name to its end. -/
def HoldsNul (field : String) : Prop := ∃ c ∈ field.toList, c.toNat = 0

theorem lookAt_pathText {field : String} (h : ¬ HoldsNul field) (text : String) :
    Stored.lookAt text (.text (Filter.pathText field)) = .ok (Stored.extract text field) := by
  have hpath : Stored.pathFault? (.text (Filter.pathText field)) = none := by
    rw [Stored.pathFault?, Stored.fieldOfPath?_pathText]
    simpa [HoldsNul] using h
  rw [Stored.lookAt, hpath, Stored.extractAt, Stored.fieldOfPath?_pathText]

/-- A row is selected if the filter is true of the fields of its text. -/
theorem selects_eq_truth {f : Filter} {p : Predicate} {params : List Datum}
    (hcompiled : f.toPredicate [] = (.ok p, params))
    (hplain : ∀ field ∈ f.fields, ¬ HoldsNul field) (r : ItemRow) :
    selects p params r = .ok (f.truth (Stored.extract r.fieldsText) = .yes) := by
  rw [selects, Filter.settles_compiled hcompiled fun field hfield =>
    lookAt_pathText (hplain field hfield) r.fieldsText]
  rfl

/-- A row can always be decided on, unless the filter names a field whose name holds a NUL. -/
theorem exists_holdsNul {f : Filter} {p : Predicate} {params : List Datum}
    (hcompiled : f.toPredicate [] = (.ok p, params))
    (hfails : ¬ ∃ b, selects p params r = .ok b) : ∃ field ∈ f.fields, HoldsNul field := by
  by_contra hnone
  have hplain : ∀ field ∈ f.fields, ¬ HoldsNul field := fun field hfield hnul =>
    hnone ⟨field, hfield, hnul⟩
  exact hfails ⟨_, selects_eq_truth hcompiled hplain r⟩

theorem faulty_showListed (h : Intact s) (hr : r ∈ s.items) :
    Faulty (showListed s r) ↔ ItemRow.Unread s r := by
  have hkept := h.kept r hr
  rw [showListed, h.readable r hr]
  simp only [faulty_bind, not_faulty_storedType hkept, false_or, faulty_show hkept,
    exists_and_right]
  obtain ⟨t, stored, ht, -⟩ := hkept
  exact and_iff_right ⟨t, storedType_eq_ok.2 ht⟩

theorem selected_subset {p : Predicate} {params : List Datum} {rows kept : List ItemRow}
    (h : selected p params rows = .ok kept) : kept ⊆ rows := by
  induction rows generalizing kept with
  | nil =>
    cases h
    exact List.Subset.refl _
  | cons r rows ih =>
    obtain ⟨keep, -, h⟩ := bind_eq_ok.1 h
    obtain ⟨others, hothers, h⟩ := bind_eq_ok.1 h
    cases h
    split
    · exact List.cons_subset_cons r (ih hothers)
    · exact List.subset_cons_of_subset r (ih hothers)

theorem exists_compiled {p : Predicate} {params : List Datum}
    {P : Predicate → List Datum → Prop} :
    (∃ q values, ((.ok p, params) : Except Error Predicate × List Datum) = (.ok q, values) ∧
      P q values) ↔ P p params := by
  simp

/-- A list fails so exactly if a row cannot be decided on, if a bound is out of range, or if, of the
rows it shows, the first that cannot be shown cannot be read. -/
theorem faults_listItems {f : Filter} {offset limit : Option Nat} (h : Intact s) :
    Faults (listItems f offset limit) s ↔
      ∃ p params, f.toPredicate [] = (.ok p, params) ∧
        ((∃ r ∈ liveItems s, ¬ ∃ b, selects p params r = .ok b) ∨ ¬ Fits offset limit ∨
          ∃ rows, selected p params (liveItems s) = .ok rows ∧
            ∃ before r after, cut offset limit rows = before ++ r :: after ∧
              (∀ q ∈ before, ∃ w, showListed s q = .ok w) ∧ ItemRow.Unread s r) := by
  rw [listItems, faults_get_bind]
  have hrefused : ¬ Faulty (f.toPredicate []).1 := Filter.blames_compile f []
  rcases hcompiled : f.toPredicate [] with ⟨e | p, params⟩
  · rw [hcompiled] at hrefused
    simpa using hrefused
  rw [exists_compiled, faults_ofResult_bind, faulty_selected]
  by_cases hdecided : ∃ r ∈ liveItems s, ¬ ∃ b, selects p params r = .ok b
  · exact iff_of_true (.inl hdecided) (.inl hdecided)
  rw [or_iff_right hdecided, or_iff_right hdecided]
  obtain ⟨rows, hrows⟩ : ∃ rows, selected p params (liveItems s) = .ok rows :=
    exists_selected fun r hr => by_contra fun hfails => hdecided ⟨r, hr, hfails⟩
  have hlive : cut offset limit rows ⊆ s.items := fun r hr =>
    (mem_liveItems.1 (selected_subset hrows (cut_subset _ _ _ hr))).1
  simp only [hrows, Except.ok.injEq, exists_eq_left', faults_ofResult_bind, faulty_window]
  by_cases hfits : Fits offset limit
  · have hwindow : window offset limit rows = .ok (cut offset limit rows) :=
      window_eq_ok.2 ⟨hfits.1, hfits.2, rfl⟩
    simp only [hfits, not_true_eq_false, false_or, hwindow, Except.ok.injEq, exists_eq_left',
      not_faults_pure, and_false, exists_false, or_false, faulty_mapM]
    refine exists₃_congr fun before r after => and_congr_right fun hsplit => ?_
    exact and_congr_right fun _ => faulty_showListed h (hlive (by simp [hsplit]))
  · exact iff_of_true (.inl hfits) (.inl hfits)

/-- As callers ask for it, a list also fails so if the store does not take its statements. -/
theorem faults_listWithin {f : Filter} {offset limit : Option Nat} :
    Faults (listWithin f offset limit) s ↔
      (∃ p params, f.toPredicate [] = (.ok p, params) ∧
        p.checkList params offset limit ≠ .ok ()) ∨ Faults (listItems f offset limit) s := by
  rw [listWithin.eq_def]
  rcases hcompiled : f.toPredicate [] with ⟨e | p, params⟩
  · rw [listItems, faults_get_bind]
    simp [hcompiled]
  · rw [exists_compiled, faults_ofResult_bind, faulty_mapError fun e => ⟨_, rfl⟩]
    simp only [mapError_eq_ok]
    cases p.checkList params offset limit with
    | error reason => simp
    | ok => simp

/-! ## Counts -/

/-- What is counted stands under the ids of iterations. -/
theorem not_faults_itemCounts {space : Uuid} (h : AllHold s) : ¬ Faults (itemCounts space) s := by
  rw [itemCounts, faults_get_bind]
  simp only [faults_ofResult_bind, not_faults_pure, and_false, exists_false, or_false]
  refine not_faulty_mapM ?_
  rintro ⟨name, counts⟩ hmem
  rw [Record.mem_entries_iff, Record.find?_ofList] at hmem
  obtain ⟨_, hname, hcounts⟩ :=
    List.mem_filterMap.1 (List.mem_reverse.1 (Record.mem_of_lookup hmem))
  obtain ⟨_, -, heq⟩ := Option.map_eq_some_iff.1 hcounts
  cases heq
  obtain ⟨r, hr, rfl⟩ := List.mem_map.1 hname
  obtain ⟨i, hi⟩ := h r (List.mem_filter.1 hr).1
  have hid : r.id = i.id.text := by
    rw [hi.row]
    rfl
  simp [readCounts, hid, i.id.read_text]

end Backlog.Store
