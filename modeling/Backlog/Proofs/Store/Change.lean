import Backlog.Proofs.Store.Items
import Backlog.Proofs.Store.Iterations
import Backlog.Store.Operation

/-!
# What an operation can do to a store

**Main statement (`run_cases`).** An operation fails and leaves the store as it was, or it succeeds
with one of the effects of `Effect`. Whatever every reachable store satisfies is proved along these
cases (`run_induction`).
-/

namespace Backlog.Store

open Store.Action

/-! ## Effects -/

namespace Operation

/-- An operation that only looks. -/
def Looks : Operation → Prop
  | loadType _ | listTypes _ _ | loadIdentity _ | identityExists _ | listIdentities | loadItem _
  | listItems _ _ _ | itemCounts _ | loadIteration _ | listIterations _ | canStart _ => True
  | _ => False

/-- What an operation does to a store when it succeeds, and what it answers. -/
inductive Effect (s : Store) : Operation → Answer → Store → Prop
  | looks {op : Operation} {a : Answer} (looks : op.Looks) : Effect s op a s
  | seedTypes {ts : List ItemType} {s' : Store} (grows : Registers s s') :
    Effect s .seedTypes (.itemTypes ts) s'
  | createType {extended : Option String} {name : String} {own : FieldSet} {t : ItemType}
    {s' : Store} (grows : Registers s s') :
    Effect s (.createType extended name own) (.itemType t) s'
  | createIdentity {id : Uuid} {fullName : String} {imageUrl : Option String}
    (content : hasContent (Text.trim fullName) = true)
    (fresh : ∀ r ∈ s.identities, r.id ≠ id.text) :
    Effect s (.createIdentity id fullName imageUrl)
      (.identity ⟨id, Text.trim fullName, imageUrl⟩)
      { s with identities := s.identities ++ [⟨id.text, Text.trim fullName, imageUrl⟩] }
  | createItem {now : Int} {typeName creator : String} {fields stored shown : Record Json}
    {t : ItemType} {text : String} (type : findType typeName s = .ok (some t))
    (storage : t.fields.toStorage (fields.insert WorkItem.creatorField (.str creator)) =
      .ok stored)
    (printed : storedText stored = .ok text) (wire : t.fields.toWire stored = .ok shown) :
    Effect s (.createItem now typeName fields creator)
      (.item ⟨idText (s.lastItem + 1), t.name, 0, shown, some now, some now⟩)
      (addItem t.name text now s)
  | saveItem {now : Int} {checked : Bool} {item : WorkItem} {k : Nat} {r : ItemRow} {t : ItemType}
    {stored shown : Record Json} {text : String} (id : itemId? item.id = some k)
    (live : findLive k s = .ok (some r)) (seen : checked = true → r.version = item.version)
    (type : findType item.typeName s = .ok (some t))
    (storage : t.fields.toStorage item.fields = .ok stored)
    (version : 0 ≤ nextVersion r.version) (printed : storedText stored = .ok text)
    (wire : t.fields.toWire stored = .ok shown) :
    Effect s (.saveItem now checked item)
      (.item ⟨idText k, t.name, nextVersion r.version, shown, some r.created, some now⟩)
      (mapItem k (ItemRow.written t.name (nextVersion r.version) text now) s)
  | assignItem {now : Int} {given version : String} {assignee : Option String} {k : Nat}
    {r : ItemRow} {t : ItemType} {held edited wire stored shown : Record Json} {text : String}
    (id : itemId? given = some k) (live : findLive k s = .ok (some r))
    (seen : version = String.ofList (Json.intChars r.version))
    (read : ItemRow.readFields r = .ok held)
    (assigned : (assigned held assignee).runOn s = (.ok edited, s))
    (type : findType r.typeName s = .ok (some t)) (before : t.fields.toWire edited = .ok wire)
    (storage : t.fields.toStorage wire = .ok stored) (next : 0 ≤ nextVersion r.version)
    (printed : storedText stored = .ok text) (after : t.fields.toWire stored = .ok shown) :
    Effect s (.assignItem now given version assignee)
      (.item ⟨idText k, t.name, nextVersion r.version, shown, some r.created, some now⟩)
      (mapItem k (ItemRow.written t.name (nextVersion r.version) text now) s)
  | deleteItem {now : Int} {given : String} {k : Nat} (id : itemId? given = some k)
    (live : ∃ r ∈ s.items, r.id = k ∧ r.deleted = false) :
    Effect s (.deleteItem now given) .done (mapItem k (ItemRow.hidden now) s)
  | createIteration {id : Uuid} {now : Int} {new : NewIteration} {i : Iteration}
    (drafted : draft id new.spaceId none new = .ok i) (fresh : ∀ r ∈ s.iterations, r.id ≠ i.id.text)
    (checked : checkIteration i s = .ok ()) :
    Effect s (.createIteration id now new) (.iteration i) (addIteration now i s)
  | createChild {id : Uuid} {now : Int} {parent : Uuid} {new : NewIteration} {above i : Iteration}
    (named : findIteration parent s = .ok (some above))
    (drafted : draft id above.spaceId (some above.id) new = .ok i)
    (fresh : ∀ r ∈ s.iterations, r.id ≠ i.id.text) (checked : checkIteration i s = .ok ()) :
    Effect s (.createChild id now parent new) (.iteration i) (addIteration now i s)
  | saveIteration {i held : Iteration} (named : findIteration i.id s = .ok (some held))
    (checked : checkIteration i s = .ok ()) :
    Effect s (.saveIteration i) (.iteration i) (setIteration i s)
  | moveIteration {id : Uuid} {state : IterationState} {i : Iteration}
    (named : findIteration id s = .ok (some i))
    (checked : checkIteration { i with state := state } s = .ok ()) :
    Effect s (.moveIteration id state) (.iteration { i with state := state })
      (setIteration { i with state := state } s)

end Operation

/-! ## Identities -/

section Identities

variable {s s' : Store} {id : Uuid} {fullName : String} {imageUrl : Option String}

theorem createIdentity_runOn_eq_ok {who : Identity}
    (h : (createIdentity id fullName imageUrl).runOn s = (.ok who, s')) :
    hasContent (Text.trim fullName) = true ∧ (∀ r ∈ s.identities, r.id ≠ id.text) ∧
      who = ⟨id, Text.trim fullName, imageUrl⟩ ∧
      s' = { s with identities := s.identities ++ [⟨id.text, Text.trim fullName, imageUrl⟩] } := by
  rw [createIdentity] at h
  split at h
  · cases h
  obtain ⟨_, _, hinsert, h⟩ := bind_runOn_eq_ok.1 h
  have hstatement := statement_runOn_eq_ok.1 hinsert
  split at hstatement
  · cases hstatement
  next hcontent =>
    split at hstatement
    · cases hstatement
    next hfresh =>
      cases hstatement
      cases h
      exact ⟨by simpa using hcontent, by simpa using hfresh, rfl, rfl⟩

theorem guarded_createIdentity (id : Uuid) (fullName : String) (imageUrl : Option String) :
    Guarded (createIdentity id fullName imageUrl) := by
  rw [createIdentity]
  split
  · exact (readOnly_throw _).guarded_bind fun _ => (guarded_statement _).bind_pure _
  · exact (guarded_statement _).bind_pure _

theorem readOnly_loadIdentity (id : Uuid) : ReadOnly (loadIdentity id) := by
  refine readOnly_get.bind fun s => ?_
  split
  · exact readOnly_ofResult _
  · exact readOnly_throw _

end Identities

/-! ## Cases of an operation -/

namespace Operation

variable {op : Operation} {s s' : Store}

theorem Looks.readOnly (h : op.Looks) (scope : Scope) : ReadOnly (op.action scope) := by
  cases op with
  | loadType name => exact (readOnly_typeNamed name).map _
  | listTypes offset limit =>
    refine ReadOnly.map (readOnly_get.bind fun s => ?_) _
    exact (readOnly_ofResult _).bind fun _ => readOnly_ofResult _
  | loadIdentity id => exact (readOnly_loadIdentity id).map _
  | identityExists id => exact (readOnly_look _).map _
  | listIdentities => exact ReadOnly.map (readOnly_get.bind fun s => readOnly_ofResult _) _
  | loadItem id => exact (readOnly_loadItem id).map _
  | listItems filter offset limit => exact (readOnly_listWithin filter offset limit).map _
  | itemCounts space => exact (readOnly_itemCounts space).map _
  | loadIteration id => exact (readOnly_iterationNamed id).map _
  | listIterations space => exact ReadOnly.map (readOnly_get.bind fun s => readOnly_ofResult _) _
  | canStart i => exact (readOnly_canStart i).map _
  | _ => exact h.elim

/-- An operation on its own leaves the store alone when it fails. -/
theorem guarded_action (op : Operation) : Guarded (op.action .own) := by
  cases op with
  | seedTypes => exact (guarded_transaction_own _).map _
  | createType extended name own =>
    exact ((readOnly_ofResult _).guarded_bind fun _ => guarded_transaction_own _).map _
  | createIdentity id fullName imageUrl => exact (guarded_createIdentity id fullName imageUrl).map _
  | createItem now typeName fields creator =>
    refine Guarded.map ?_ _
    rw [Store.createItem]
    split
    · exact guarded_throw _
    · split
      · exact guarded_throw _
      · exact guarded_transaction_own _
  | saveItem now checked item =>
    exact ((readOnly_itemIdOf _).guarded_bind fun _ => guarded_transaction_own _).map _
  | assignItem now id version assignee =>
    exact ((readOnly_itemIdOf _).guarded_bind fun _ => guarded_transaction_own _).map _
  | deleteItem now id =>
    exact ((readOnly_itemIdOf _).guarded_bind fun _ => guarded_statement _).map _
  | createIteration id now new =>
    exact ((readOnly_ofResult _).guarded_bind fun _ => (guarded_statement _).bind_pure _).map _
  | createChild id now parent new => exact (guarded_transaction_own _).map _
  | saveIteration i => exact (guarded_transaction_own _).map _
  | moveIteration id state => exact (guarded_transaction_own _).map _
  | _ => exact (Looks.readOnly (by trivial) .own).guarded

theorem effect_of_run {a : Answer} (h : op.run s = (.ok a, s')) : Effect s op a s' := by
  cases op with
  | seedTypes =>
    obtain ⟨ts, hts, rfl⟩ := map_runOn_eq_ok.1 h
    exact .seedTypes (registers_of_seedTypes hts)
  | createType extended name own =>
    obtain ⟨t, ht, rfl⟩ := map_runOn_eq_ok.1 h
    exact .createType (registers_of_createType ht)
  | createIdentity id fullName imageUrl =>
    obtain ⟨who, hwho, rfl⟩ := map_runOn_eq_ok.1 h
    obtain ⟨hcontent, hfresh, rfl, rfl⟩ := createIdentity_runOn_eq_ok hwho
    exact .createIdentity hcontent hfresh
  | createItem now typeName fields creator =>
    obtain ⟨w, hw, rfl⟩ := map_runOn_eq_ok.1 h
    obtain ⟨t, stored, text, shown, ht, hstored, htext, hshown, rfl, rfl⟩ :=
      createItem_runOn_eq_ok hw
    exact .createItem ht hstored htext hshown
  | saveItem now checked item =>
    obtain ⟨w, hw, rfl⟩ := map_runOn_eq_ok.1 h
    obtain ⟨k, r, t, stored, text, shown, hid, hr, hseen, ht, hstored, hversion, htext, hshown,
      rfl, rfl⟩ := saveItem_runOn_eq_ok.1 hw
    exact .saveItem hid hr hseen ht hstored hversion htext hshown
  | assignItem now id version assignee =>
    obtain ⟨w, hw, rfl⟩ := map_runOn_eq_ok.1 h
    obtain ⟨k, r, t, held, edited, wire, stored, text, shown, hid, hr, hseen, hheld, hassigned, ht,
      hwire, hstored, hversion, htext, hshown, rfl, rfl⟩ := assignItem_runOn_eq_ok.1 hw
    exact .assignItem hid hr hseen hheld hassigned ht hwire hstored hversion htext hshown
  | deleteItem now id =>
    obtain ⟨_, hdone, rfl⟩ := map_runOn_eq_ok.1 h
    obtain ⟨k, hid, hlive, rfl⟩ := deleteItem_runOn_eq_ok.1 hdone
    exact .deleteItem hid hlive
  | createIteration id now new =>
    obtain ⟨i, hi, rfl⟩ := map_runOn_eq_ok.1 h
    obtain ⟨hdraft, hfresh, hcheck, rfl⟩ := createIteration_runOn_eq_ok.1 hi
    exact .createIteration hdraft hfresh hcheck
  | createChild id now parent new =>
    obtain ⟨i, hi, rfl⟩ := map_runOn_eq_ok.1 h
    obtain ⟨above, hnamed, hdraft, hfresh, hcheck, rfl⟩ := createChild_runOn_eq_ok.1 hi
    exact .createChild hnamed hdraft hfresh hcheck
  | saveIteration i =>
    obtain ⟨j, hj, rfl⟩ := map_runOn_eq_ok.1 h
    obtain ⟨⟨held, hnamed⟩, hcheck, rfl, rfl⟩ := saveIteration_runOn_eq_ok.1 hj
    exact .saveIteration hnamed hcheck
  | moveIteration id state =>
    obtain ⟨j, hj, rfl⟩ := map_runOn_eq_ok.1 h
    obtain ⟨i, hnamed, rfl, hcheck, rfl⟩ := moveIteration_runOn_eq_ok hj
    exact .moveIteration hnamed hcheck
  | _ =>
    obtain rfl := (Looks.readOnly (by trivial) .own).eq_of_runOn h
    exact .looks trivial

/-- An operation fails and leaves the store as it was, or it has its effect. -/
theorem run_cases (op : Operation) (s : Store) :
    (∃ e, op.run s = (.error e, s)) ∨ ∃ a s', op.run s = (.ok a, s') ∧ Effect s op a s' := by
  rcases hrun : op.run s with ⟨e | a, s'⟩
  · obtain rfl := guarded_action op s e s' hrun
    exact .inl ⟨e, rfl⟩
  · exact .inr ⟨a, s', rfl, effect_of_run hrun⟩

end Operation

/-! ## Runs -/

theorem run_append (ops more : List Operation) (s : Store) :
    (run (ops ++ more) s).2 = (run more (run ops s).2).2 := by
  induction ops generalizing s with
  | nil => rfl
  | cons op ops ih => exact ih (op.run s).2

theorem run_append_cons (before : List Operation) (op : Operation) (after : List Operation)
    (s : Store) :
    (run (before ++ op :: after) s).2 = (run after (op.run (run before s).2).2).2 := by
  rw [run_append]
  generalize (run before s).2 = middle
  rfl

/-- What holds of a store and is kept by the effects of a run's operations holds after the run. -/
theorem run_induction {P : Store → Prop} {s : Store} (ops : List Operation) (start : P s)
    (step : ∀ {s op a s'}, op ∈ ops → P s → Operation.Effect s op a s' → P s') :
    P (run ops s).2 := by
  induction ops generalizing s with
  | nil => exact start
  | cons op ops ih =>
    have hnext : P (op.run s).2 := by
      rcases op.run_cases s with ⟨e, he⟩ | ⟨a, s', hs', heffect⟩
      · rwa [he]
      · rw [hs']
        exact step List.mem_cons_self start heffect
    exact ih hnext fun hop => step (List.mem_cons_of_mem op hop)

end Backlog.Store
