import Backlog.Proofs.Store.Types
import Backlog.Store.Statement

/-!
# What the operations on items do

For each operation, what has to hold for it to succeed, what it gives and the store after it.

**One way to write.** Saving and assigning both end in `writeRow`: the whole content of one row is
replaced by values that a type has converted, under the next version.
-/

namespace Backlog.Store

open Store.Action

variable {s s' : Store} {k : Nat} {r : ItemRow} {t : ItemType} {w : WorkItem} {scope : Scope}
  {id : String} {now : Int}

/-! ## Rows -/

/-- The row with its content replaced. -/
def ItemRow.written (typeName : String) (version : Int) (text : String) (now : Int)
    (r : ItemRow) : ItemRow :=
  { r with typeName := typeName, version := version, fieldsText := text, updated := now,
           unreadable := none }

/-- The row hidden. -/
def ItemRow.hidden (now : Int) (r : ItemRow) : ItemRow := { r with deleted := true, updated := now }

/-- The store with the row of one item changed. -/
def mapItem (k : Nat) (f : ItemRow → ItemRow) (s : Store) : Store :=
  { s with items := s.items.map fun r => if r.id = k then f r else r }

/-- The store with a new item of version 0. -/
def addItem (typeName text : String) (now : Int) (s : Store) : Store :=
  { s with
    items := s.items ++ [⟨s.lastItem + 1, typeName, 0, text, false, now, now, none⟩]
    lastItem := s.lastItem + 1 }

/-! ## Lookup -/

theorem itemIdOf_runOn_eq_ok :
    (itemIdOf id).runOn s = (.ok k, s') ↔ itemId? id = some k ∧ s = s' := by
  rw [itemIdOf.eq_def]
  cases itemId? id with
  | none => simp
  | some n => simp

theorem itemIdOf_bind_runOn_eq_ok {α : Type} {f : Nat → Action α} {x : α} :
    (itemIdOf id >>= f).runOn s = (.ok x, s') ↔
      ∃ k, itemId? id = some k ∧ (f k).runOn s = (.ok x, s') :=
  look_bind_runOn_eq_ok fun _ _ => itemIdOf_runOn_eq_ok

theorem readOnly_itemIdOf (id : String) : ReadOnly (itemIdOf id) := by
  rw [itemIdOf.eq_def]
  cases itemId? id with
  | none => exact readOnly_throw _
  | some n => exact readOnly_pure n

theorem findLive_eq_ok :
    findLive k s = .ok (some r) ↔
      s.items.find? (fun r => r.id = k ∧ r.deleted = false) = some r ∧ r.unreadable = none := by
  rw [findLive.eq_def]
  cases s.items.find? (fun r => r.id = k ∧ r.deleted = false) with
  | none => simp
  | some r' =>
    simp only [Option.some.injEq]
    split
    next reason hreason =>
      simp only [reduceCtorEq, false_iff]
      intro h
      obtain ⟨rfl, hnone⟩ := h
      rw [hreason] at hnone
      cases hnone
    next hnone =>
      constructor
      · intro h
        cases h
        exact ⟨rfl, hnone⟩
      · intro h
        obtain ⟨rfl, -⟩ := h
        rfl

/-- A live row is one of the store's, has the id that was asked for and can be read. -/
theorem live_of_findLive (h : findLive k s = .ok (some r)) :
    r ∈ s.items ∧ r.id = k ∧ r.deleted = false ∧ r.unreadable = none := by
  obtain ⟨hfind, hreadable⟩ := findLive_eq_ok.1 h
  have hr : r.id = k ∧ r.deleted = false := by simpa using List.find?_some hfind
  exact ⟨List.mem_of_find?_eq_some hfind, hr.1, hr.2, hreadable⟩

theorem liveRow_runOn_eq_ok :
    (liveRow k id).runOn s = (.ok r, s') ↔ findLive k s = .ok (some r) ∧ s = s' :=
  lookup_runOn_eq_ok (fun _ => rfl) rfl

theorem liveRow_bind_runOn_eq_ok {α : Type} {f : ItemRow → Action α} {x : α} :
    (liveRow k id >>= f).runOn s = (.ok x, s') ↔
      ∃ r, findLive k s = .ok (some r) ∧ (f r).runOn s = (.ok x, s') :=
  look_bind_runOn_eq_ok fun _ _ => liveRow_runOn_eq_ok

/-- A transaction that starts from the live row of an item. -/
theorem onLiveRow_runOn_eq_ok {α : Type} {f : ItemRow → Action α} {x : α} :
    (itemIdOf id >>= fun k => transaction scope (liveRow k id >>= f)).runOn s = (.ok x, s') ↔
      ∃ r, itemId? id = some r.id ∧ findLive r.id s = .ok (some r) ∧
        (f r).runOn s = (.ok x, s') := by
  rw [itemIdOf_bind_runOn_eq_ok]
  simp only [transaction_runOn_eq_ok, liveRow_bind_runOn_eq_ok]
  constructor
  · intro h
    obtain ⟨k, hk, r, hr, h⟩ := h
    obtain ⟨-, rfl, -⟩ := live_of_findLive hr
    exact ⟨r, hk, hr, h⟩
  · intro h
    obtain ⟨r, hk, hr, h⟩ := h
    exact ⟨r.id, hk, r, hr, h⟩

theorem readOnly_liveRow (k : Nat) (id : String) : ReadOnly (liveRow k id) :=
  readOnly_lookup (fun _ => rfl) rfl

theorem storedType_eq_ok {name : String} :
    storedType name s = .ok t ↔ findType name s = .ok (some t) := by
  rw [storedType.eq_def]
  cases findType name s with
  | error e => simp
  | ok found => cases found <;> simp

/-! ## Statements -/

theorem storedText_eq_ok {stored : Record Json} {text : String} :
    storedText stored = .ok text ↔
      (Json.ofRecord stored).depth ≤ Stored.depthLimit ∧ text = (Json.ofRecord stored).text := by
  rw [storedText]
  split
  next h => simp [h, eq_comm]
  next h => simp [h]

theorem insertItem_runOn_eq_ok {typeName : String} {stored : Record Json} :
    (insertItem typeName stored now).runOn s = (.ok k, s') ↔
      ∃ text, storedText stored = .ok text ∧ k = s.lastItem + 1 ∧
        s' = addItem typeName text now s := by
  rw [insertItem, bind_runOn_eq_ok]
  simp only [statement_runOn_eq_ok, bind_eq_ok]
  constructor
  · intro h
    obtain ⟨_, _, ⟨text, htext, ⟨⟩⟩, h⟩ := h
    cases h
    exact ⟨text, htext, rfl, rfl⟩
  · intro h
    obtain ⟨text, htext, rfl, rfl⟩ := h
    exact ⟨(), _, ⟨text, htext, rfl⟩, rfl⟩

theorem updateItem_runOn_eq_ok {typeName : String} {version : Int} {stored : Record Json}
    {u : Unit} :
    (updateItem k typeName version stored now).runOn s = (.ok u, s') ↔
      0 ≤ version ∧ ∃ text, storedText stored = .ok text ∧
        s' = mapItem k (ItemRow.written typeName version text now) s := by
  rw [updateItem, statement_runOn_eq_ok]
  split
  next h =>
    simp only [throw, throwThe, MonadExceptOf.throw, error_bind, reduceCtorEq, false_iff, not_and]
    omega
  next h =>
    simp only [bind_eq_ok, pure, Except.pure]
    constructor
    · intro hwritten
      obtain ⟨text, htext, ⟨⟩⟩ := hwritten
      exact ⟨by omega, text, htext, rfl⟩
    · intro hwritten
      obtain ⟨-, text, htext, rfl⟩ := hwritten
      exact ⟨text, htext, rfl⟩

/-! ## Operations -/

theorem createItem_runOn_eq_ok {typeName creator : String} {fields : Record Json}
    (h : (createItem scope now typeName fields creator).runOn s = (.ok w, s')) :
    ∃ t stored text shown, findType typeName s = .ok (some t) ∧
      t.fields.toStorage (fields.insert WorkItem.creatorField (.str creator)) = .ok stored ∧
      storedText stored = .ok text ∧ t.fields.toWire stored = .ok shown ∧
      w = ⟨idText (s.lastItem + 1), t.name, 0, shown, some now, some now⟩ ∧
      s' = addItem t.name text now s := by
  rw [createItem] at h
  split at h
  · cases h
  split at h
  · cases h
  obtain ⟨t, ht, h⟩ := typeNamed_bind_runOn_eq_ok.1 (transaction_runOn_eq_ok.1 h)
  obtain ⟨stored, hstored, h⟩ := ofResult_bind_runOn_eq_ok.1 h
  obtain ⟨k, _, hinsert, h⟩ := bind_runOn_eq_ok.1 h
  obtain ⟨text, htext, rfl, rfl⟩ := insertItem_runOn_eq_ok.1 hinsert
  obtain ⟨shown, hshown, h⟩ := ofResult_bind_runOn_eq_ok.1 h
  cases h
  exact ⟨t, stored, text, shown, ht, hstored, htext, hshown, rfl, rfl⟩

theorem loadItem_runOn_eq_ok :
    (loadItem id).runOn s = (.ok w, s') ↔
      s = s' ∧ ∃ k r t, itemId? id = some k ∧ findLive k s = .ok (some r) ∧
        findType r.typeName s = .ok (some t) ∧ ItemRow.show t r = .ok w := by
  rw [loadItem, itemIdOf_bind_runOn_eq_ok]
  constructor
  · intro h
    obtain ⟨k, hk, h⟩ := h
    obtain ⟨r, hr, h⟩ := liveRow_bind_runOn_eq_ok.1 h
    rw [get_bind_runOn] at h
    obtain ⟨t, ht, h⟩ := ofResult_bind_runOn_eq_ok.1 h
    obtain ⟨hshow, rfl⟩ := ofResult_runOn_eq_ok.1 h
    exact ⟨rfl, k, r, t, hk, hr, storedType_eq_ok.1 ht, hshow⟩
  · intro h
    obtain ⟨rfl, k, r, t, hk, hr, ht, hshow⟩ := h
    refine ⟨k, hk, liveRow_bind_runOn_eq_ok.2 ⟨r, hr, ?_⟩⟩
    rw [get_bind_runOn]
    refine ofResult_bind_runOn_eq_ok.2 ⟨t, storedType_eq_ok.2 ht, ?_⟩
    exact ofResult_runOn_eq_ok.2 ⟨hshow, rfl⟩

theorem writeRow_runOn_eq_ok {stored : Record Json} :
    (writeRow now t r stored).runOn s = (.ok w, s') ↔
      ∃ text shown, 0 ≤ nextVersion r.version ∧ storedText stored = .ok text ∧
        t.fields.toWire stored = .ok shown ∧
        w = ⟨idText r.id, t.name, nextVersion r.version, shown, some r.created, some now⟩ ∧
        s' = mapItem r.id (ItemRow.written t.name (nextVersion r.version) text now) s := by
  constructor
  · intro h
    obtain ⟨_, _, hupdate, h⟩ := bind_runOn_eq_ok.1 h
    obtain ⟨hversion, text, htext, rfl⟩ := updateItem_runOn_eq_ok.1 hupdate
    obtain ⟨shown, hshown, h⟩ := ofResult_bind_runOn_eq_ok.1 h
    cases h
    exact ⟨text, shown, hversion, htext, hshown, rfl, rfl⟩
  · intro h
    obtain ⟨text, shown, hversion, htext, hshown, rfl, rfl⟩ := h
    refine bind_runOn_eq_ok.2
      ⟨(), _, updateItem_runOn_eq_ok.2 ⟨hversion, text, htext, rfl⟩, ?_⟩
    exact ofResult_bind_runOn_eq_ok.2 ⟨shown, hshown, rfl⟩

theorem saveItem_runOn_eq_ok {checked : Bool} {item : WorkItem} :
    (saveItem scope now checked item).runOn s = (.ok w, s') ↔
      ∃ k r t stored text shown, itemId? item.id = some k ∧ findLive k s = .ok (some r) ∧
        (checked = true → r.version = item.version) ∧ findType item.typeName s = .ok (some t) ∧
        t.fields.toStorage item.fields = .ok stored ∧ 0 ≤ nextVersion r.version ∧
        storedText stored = .ok text ∧ t.fields.toWire stored = .ok shown ∧
        w = ⟨idText k, t.name, nextVersion r.version, shown, some r.created, some now⟩ ∧
        s' = mapItem k (ItemRow.written t.name (nextVersion r.version) text now) s := by
  rw [saveItem, onLiveRow_runOn_eq_ok]
  constructor
  · intro h
    obtain ⟨r, hk, hr, h⟩ := h
    split at h
    · cases h
    next hchecked =>
      rw [get_bind_runOn] at h
      obtain ⟨found, hfound, h⟩ := ofResult_bind_runOn_eq_ok.1 h
      cases found with
      | none => cases h
      | some t =>
        obtain ⟨stored, hstored, h⟩ := ofResult_bind_runOn_eq_ok.1 h
        obtain ⟨text, shown, hversion, htext, hshown, rfl, rfl⟩ := writeRow_runOn_eq_ok.1 h
        have hseen : checked = true → r.version = item.version := by simpa using hchecked
        exact ⟨r.id, r, t, stored, text, shown, hk, hr, hseen, hfound, hstored, hversion, htext,
          hshown, rfl, rfl⟩
  · intro h
    obtain ⟨k, r, t, stored, text, shown, hk, hr, hseen, ht, hstored, hversion, htext, hshown, rfl,
      rfl⟩ := h
    obtain ⟨-, rfl, -⟩ := live_of_findLive hr
    have hchecked : ¬ (checked = true ∧ r.version ≠ item.version) := by simpa using hseen
    refine ⟨r, hk, hr, ?_⟩
    rw [if_neg hchecked, get_bind_runOn]
    refine ofResult_bind_runOn_eq_ok.2 ⟨some t, ht, ?_⟩
    refine ofResult_bind_runOn_eq_ok.2 ⟨stored, hstored, ?_⟩
    exact writeRow_runOn_eq_ok.2 ⟨text, shown, hversion, htext, hshown, rfl, rfl⟩

/-- A change of the assignee starts from what the row holds and leaves the store alone. -/
theorem assigned_runOn_eq_ok {stored stored' : Record Json} {assignee : Option String}
    (h : (assigned stored assignee).runOn s = (.ok stored', s')) :
    s = s' ∧ (stored' = stored.erase WorkItem.assigneeField ∨
      ∃ given user, assignee = some given ∧ Uuid.read (Text.trim given) = .ok user ∧
        identityExists user s = true ∧
        stored' = stored.insert WorkItem.assigneeField (.str user.text)) := by
  rw [assigned.eq_def] at h
  cases assignee with
  | none =>
    cases h
    exact ⟨rfl, .inl rfl⟩
  | some given =>
    simp only at h
    split at h
    · cases h
    next user huser =>
      rw [get_bind_runOn] at h
      split at h
      next hexists =>
        cases h
        exact ⟨rfl, .inr ⟨given, user, rfl, huser, hexists, rfl⟩⟩
      · cases h

theorem assignItem_runOn_eq_ok {version : String} {assignee : Option String} :
    (assignItem scope now id version assignee).runOn s = (.ok w, s') ↔
      ∃ k r t held edited wire stored text shown, itemId? id = some k ∧
        findLive k s = .ok (some r) ∧ version = String.ofList (Json.intChars r.version) ∧
        ItemRow.readFields r = .ok held ∧
        (assigned held assignee).runOn s = (.ok edited, s) ∧
        findType r.typeName s = .ok (some t) ∧ t.fields.toWire edited = .ok wire ∧
        t.fields.toStorage wire = .ok stored ∧ 0 ≤ nextVersion r.version ∧
        storedText stored = .ok text ∧ t.fields.toWire stored = .ok shown ∧
        w = ⟨idText k, t.name, nextVersion r.version, shown, some r.created, some now⟩ ∧
        s' = mapItem k (ItemRow.written t.name (nextVersion r.version) text now) s := by
  rw [assignItem, onLiveRow_runOn_eq_ok]
  constructor
  · intro h
    obtain ⟨r, hk, hr, h⟩ := h
    split at h
    · cases h
    next hchecked =>
      obtain ⟨held, hheld, h⟩ := ofResult_bind_runOn_eq_ok.1 h
      obtain ⟨edited, _, hassigned, h⟩ := bind_runOn_eq_ok.1 h
      obtain ⟨rfl, -⟩ := assigned_runOn_eq_ok hassigned
      rw [get_bind_runOn] at h
      obtain ⟨t, ht, h⟩ := ofResult_bind_runOn_eq_ok.1 h
      obtain ⟨wire, hwire, h⟩ := ofResult_bind_runOn_eq_ok.1 h
      obtain ⟨stored, hstored, h⟩ := ofResult_bind_runOn_eq_ok.1 h
      obtain ⟨text, shown, hversion, htext, hshown, rfl, rfl⟩ := writeRow_runOn_eq_ok.1 h
      have hseen : version = String.ofList (Json.intChars r.version) := by simpa using hchecked
      exact ⟨r.id, r, t, held, edited, wire, stored, text, shown, hk, hr, hseen, hheld, hassigned,
        storedType_eq_ok.1 ht, hwire, hstored, hversion, htext, hshown, rfl, rfl⟩
  · intro h
    obtain ⟨k, r, t, held, edited, wire, stored, text, shown, hk, hr, rfl, hheld, hassigned, ht,
      hwire, hstored, hversion, htext, hshown, rfl, rfl⟩ := h
    obtain ⟨-, rfl, -⟩ := live_of_findLive hr
    refine ⟨r, hk, hr, ?_⟩
    rw [if_neg (not_not.2 rfl)]
    refine ofResult_bind_runOn_eq_ok.2 ⟨held, hheld, ?_⟩
    refine bind_runOn_eq_ok.2 ⟨edited, s, hassigned, ?_⟩
    rw [get_bind_runOn]
    refine ofResult_bind_runOn_eq_ok.2 ⟨t, storedType_eq_ok.2 ht, ?_⟩
    refine ofResult_bind_runOn_eq_ok.2 ⟨wire, hwire, ?_⟩
    refine ofResult_bind_runOn_eq_ok.2 ⟨stored, hstored, ?_⟩
    exact writeRow_runOn_eq_ok.2 ⟨text, shown, hversion, htext, hshown, rfl, rfl⟩

theorem deleteItem_runOn_eq_ok {u : Unit} :
    (deleteItem now id).runOn s = (.ok u, s') ↔
      ∃ k, itemId? id = some k ∧ (∃ r ∈ s.items, r.id = k ∧ r.deleted = false) ∧
        s' = mapItem k (ItemRow.hidden now) s := by
  rw [deleteItem, itemIdOf_bind_runOn_eq_ok]
  constructor
  · intro h
    obtain ⟨k, hk, h⟩ := h
    rw [statement_runOn_eq_ok] at h
    split at h
    next hlive =>
      cases h
      exact ⟨k, hk, by simpa using hlive, rfl⟩
    · cases h
  · intro h
    obtain ⟨k, hk, hlive, rfl⟩ := h
    refine ⟨k, hk, statement_runOn_eq_ok.2 ?_⟩
    rw [if_pos (by simpa using hlive)]
    rfl

/-! ## Operations that only look -/

theorem readOnly_loadItem (id : String) : ReadOnly (loadItem id) := by
  refine (readOnly_itemIdOf id).bind fun k => (readOnly_liveRow k id).bind fun r => ?_
  exact (readOnly_get.bind fun s => readOnly_ofResult _).bind fun t => readOnly_ofResult _

theorem readOnly_listItems (filter : Filter) (offset limit : Option Nat) :
    ReadOnly (listItems filter offset limit) := by
  refine readOnly_get.bind fun s => ?_
  split
  · exact readOnly_throw _
  · refine (readOnly_ofResult _).bind fun _ => (readOnly_ofResult _).bind fun _ => ?_
    exact (readOnly_ofResult _).bind fun _ => readOnly_pure _

theorem readOnly_listWithin (filter : Filter) (offset limit : Option Nat) :
    ReadOnly (listWithin filter offset limit) := by
  rw [listWithin.eq_def]
  split
  · exact readOnly_throw _
  · exact (readOnly_ofResult _).bind fun _ => readOnly_listItems _ _ _

theorem readOnly_itemCounts (space : Uuid) : ReadOnly (itemCounts space) :=
  readOnly_get.bind fun _ => (readOnly_ofResult _).bind fun _ => readOnly_pure _

end Backlog.Store
