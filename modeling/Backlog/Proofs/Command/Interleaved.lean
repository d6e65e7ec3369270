import Backlog.Proofs.Command.Update
import Backlog.Proofs.Store.Deletion
import Backlog.Proofs.Store.Registry

/-!
# Updates of an item among other callers

An update asks two operations of the store, one to load the item and one to save it, and others can
run theirs in between. What it saves is what it loaded, with its own changes. Before it saves, it
puts the version that was given in the place of the one that it loaded.

**Main statement (`updateItem_among`).** If the update succeeds, the version that was given is the
version that it loaded and one more for every write in between. So what it loaded is still current
when it saves exactly if the two versions are the same, and then only what it names changes.

**The gap** (`exists_unseen_overwrite`). A version that nobody has seen yet lets as many writes go
by as it is ahead of the item, and they are lost.

**Rows that nobody writes** stay as they are or are deleted (`item?_run_of_unwritten`), which is why
no more than the versions need to be looked at.
-/

namespace Backlog.Store

open Command (updateScript changed)
open Store.Action

variable {s s' : Store} {op : Operation} {k : Nat} {r r' : ItemRow} {t : ItemType}
  {w w' : WorkItem} {ops : List Operation} {id : String} {now version : Int}
  {typeName : Option String} {fields : FieldArguments} {values : Record Json}

/-! ## Rows that nobody writes -/

/-- An operation that does not write an item leaves its row as it is, or deletes it. -/
theorem item?_run_one_of_unwritten (h : Numbered s) (hr : item? k s = some r)
    (hno : ¬ op.Writes k s) :
    item? k (op.run s).2 = some r ∨ ∃ q, item? k (op.run s).2 = some q ∧ q.deleted = true := by
  rcases op.run_cases s with ⟨e, he⟩ | ⟨a, s', hs', heffect⟩
  · rw [he]
    exact .inl hr
  have htarget : op.target? ≠ some k := fun htarget => hno ⟨htarget, by rw [hs']; rfl⟩
  rw [hs']
  exact (item?_effect_cases h hr heffect).imp_right fun hcase => hcase.2.resolve_left htarget

/-- A run that does not write an item leaves its row as it is, or deletes it. -/
theorem item?_run_of_unwritten (h : Numbered s) (hr : item? k s = some r)
    (hzero : writesTo k ops s = 0) :
    item? k (run ops s).2 = some r ∨ ∃ q, item? k (run ops s).2 = some q ∧ q.deleted = true := by
  induction ops generalizing s with
  | nil => exact .inl hr
  | cons op ops ih =>
    rw [writesTo, Nat.add_eq_zero_iff] at hzero
    have hno : ¬ op.Writes k s := by
      intro hwrites
      rw [if_pos hwrites] at hzero
      cases hzero.1
    rcases item?_run_one_of_unwritten h hr hno with hsame | ⟨q, hq, hdeleted⟩
    · exact ih (h.run_one op) hsame hzero.2
    · exact .inr ⟨q, (item?_run (h.run_one op) hq hdeleted ops).2, hdeleted⟩

/-! ## Loading again -/

/-- An item is loaded from its row, with the version of the row. -/
theorem exists_row_of_loadItem (hload : (loadItem id).runOn s = (.ok w, s)) :
    ∃ k r t, itemId? id = some k ∧ findLive k s = .ok (some r) ∧
      findType r.typeName s = .ok (some t) ∧ ItemRow.show t r = .ok w ∧ w.version = r.version := by
  obtain ⟨-, k, r, t, hid, hlive, ht, hshow⟩ := loadItem_runOn_eq_ok.1 hload
  obtain ⟨_, _, -, -, hw⟩ := show_eq_ok.1 hshow
  exact ⟨k, r, t, hid, hlive, ht, hshow, by rw [hw]⟩

/-- An item that is still live when a run is over has been written as often as its version says. -/
theorem version_of_live (h : Numbered s) (hr : findLive k s = .ok (some r))
    (hr' : findLive k (run ops s).2 = .ok (some r')) :
    r'.version = r.version + writesTo k ops s := by
  obtain ⟨hmem, hid, -⟩ := live_of_findLive hr
  obtain ⟨hmem', hid', -⟩ := live_of_findLive hr'
  rw [← hid]
  exact (after_of_id_eq h ops hmem hmem' (hid.trans hid'.symm)).version

/-- **Loading again** gives the same item exactly if nobody has written it. -/
theorem loadItem_again_iff (h : Numbered s) (hid : itemId? id = some k)
    (hload : (loadItem id).runOn s = (.ok w, s))
    (hlive : findLive k (run ops s).2 = .ok (some r')) :
    (loadItem id).runOn (run ops s).2 = (.ok w, (run ops s).2) ↔ writesTo k ops s = 0 := by
  obtain ⟨k₁, r, t, hid₁, hr, ht, hshow, hversion⟩ := exists_row_of_loadItem hload
  obtain rfl : k₁ = k := Option.some.inj (hid₁.symm.trans hid)
  have hcount := version_of_live h hr hlive
  apply Iff.intro
  · intro hagain
    obtain ⟨k₂, q, -, hid₂, hq, -, -, hversion'⟩ := exists_row_of_loadItem hagain
    obtain rfl : k₂ = k₁ := Option.some.inj (hid₂.symm.trans hid)
    obtain rfl : q = r' := by simpa [hlive] using hq.symm
    omega
  · intro hzero
    obtain ⟨hmem, hrid, -⟩ := live_of_findLive hr
    obtain ⟨hmem', hrid', hnot, -⟩ := live_of_findLive hlive
    have hfound := (item?_eq_some (h.run ops)).2 ⟨hmem', hrid'⟩
    obtain rfl : r' = r := by
      rcases item?_run_of_unwritten h ((item?_eq_some h).2 ⟨hmem, hrid⟩) hzero with
        hsame | ⟨q, hq, hdeleted⟩
      · exact Option.some.inj (hfound.symm.trans hsame)
      · obtain rfl := Option.some.inj (hfound.symm.trans hq)
        cases hnot.symm.trans hdeleted
    exact loadItem_runOn_eq_ok.2
      ⟨rfl, k₁, r', t, hid, hlive, findType_of_isPrefix (types_isPrefix_run ops s) ht, hshow⟩

/-! ## Steps of an update -/

theorem runAmong_ask {α : Type} (op : Operation) (next : Except Error Answer → Script α)
    (mine : List Operation) (others : List (List Operation)) (s : Store) :
    (Script.ask op next).runAmong (mine :: others) s =
      (next (op.run (run mine s).2).1).runAmong others (op.run (run mine s).2).2 := rfl

/-- An update that succeeds has loaded an item, and saved it with its changes in the store that the
others left behind. -/
theorem saved_of_updateScript {before between : List Operation} {done : Result}
    (h : (updateScript now id version typeName fields).runAmong [before, between] s =
      (.ok done, s')) :
    ∃ w w' values, (loadItem id).runOn (run before s).2 = (.ok w, (run before s).2) ∧
      fields.read = .ok values ∧ done.answer = .item w' ∧
      (saveItem .own now true (changed w version typeName values)).runOn
        (run between (run before s).2).2 = (.ok w', s') := by
  rw [updateScript, runAmong_ask, run_loadItem] at h
  generalize (run before s).2 = seen at h ⊢
  rcases hload : (loadItem id).runOn seen with ⟨e | w, seen'⟩
  · rw [hload] at h
    cases h
  obtain rfl := (readOnly_loadItem id).eq_of_runOn hload
  rw [hload] at h
  cases hread : fields.read with
  | error f =>
    rw [hread] at h
    cases h
  | ok values =>
    rw [hread] at h
    change (Command.askLast _).runAmong [between] seen = _ at h
    rw [Command.askLast, runAmong_ask, run_saveItem] at h
    rcases hsave : (saveItem .own now true (changed w version typeName values)).runOn
      (run between seen).2 with ⟨e | w', s''⟩
    · rw [hsave] at h
      cases h
    · rw [hsave] at h
      cases h
      exact ⟨w, w', values, rfl, rfl, rfl, hsave⟩

/-! ## What becomes of other fields -/

/-- A field of an item that is saved again and not named: its value is converted to the storage of
the type that the item has now, and back. -/
structure Carries (fs : FieldSet) (name : String) (v? v'? : Option Json) : Prop where
  absent : v? = none → v'? = none
  undeclared : fs.find? name = none → v'? = v?
  declared : ∀ v d, v? = some v → v ≠ .null → fs.find? name = some d →
    ∃ x y, d.type.toStorage v = .ok x ∧ d.type.toWire x = .ok y ∧ v'? = some y

/-- What an update saves of the item that it loaded, whoever wrote it in between. -/
theorem carries_of_saveItem (hread : fields.read = .ok values)
    (hsave : (saveItem .own now true (changed w version typeName values)).runOn s = (.ok w', s')) :
    ∃ t, findType w'.typeName s = .ok (some t) ∧ w'.typeName = typeName.getD w.typeName ∧
      Replaces s now t w' s' ∧ ∀ name, ¬ fields.Names name →
        Carries t.fields name (w.fields.find? name) (w'.fields.find? name) := by
  obtain ⟨k, r, t, stored, text, shown, -, hlive, -, ht, hstored, -, htext, hshown, rfl, rfl⟩ :=
    saveItem_runOn_eq_ok.1 hsave
  have hname : t.name = typeName.getD w.typeName := name_of_findType ht
  refine ⟨t, hname ▸ ht, hname, ⟨k, r, stored, hlive, rfl, hshown, ?_⟩, fun name hother => ?_⟩
  · rw [(storedText_eq_ok.1 htext).2]
  · have hinput : (changed w version typeName values).fields.find? name = w.fields.find? name := by
      show (changed w version none values).fields.find? name = _
      exact find?_changed_of_unnamed hread hother
    rw [← hinput]
    exact ⟨FieldSet.find?_shown_of_absent hstored hshown,
      FieldSet.find?_shown_of_undeclared hstored hshown,
      fun v d hv hne hd => FieldSet.find?_shown_of_declared hstored hshown hd hv hne⟩

/-! ## Updates -/

/-- **Updates among other callers.** If an update succeeds, the version that it was given is the one
that it loaded and one more for every write in between. What it loaded is what the store holds just
before it saves exactly if the two versions are the same, and then all fields that it does not name
stay as they are, where it keeps the type. In any case it saves what it loaded. -/
theorem updateItem_among {before between : List Operation}
    (hops : ∀ op ∈ before ++ between, op.WellFormed) {paging : PagingConfig} {fresh : Fresh}
    {done : Result}
    (h : ((Command.updateItem id version typeName fields).script paging fresh).runAmong
      [before, between] empty = (.ok done, s')) :
    let seen := (run before empty).2
    let held := (run (before ++ between) empty).2
    ∃ k w w' t, itemId? id = some k ∧ (loadItem id).runOn seen = (.ok w, seen) ∧
      done.answer = .item w' ∧ findType w'.typeName held = .ok (some t) ∧
      w'.typeName = typeName.getD w.typeName ∧ Replaces held fresh.now t w' s' ∧
      version = w.version + writesTo k between seen ∧
      ((loadItem id).runOn held = (.ok w, held) ↔ w.version = version) ∧
      (∀ name, ¬ fields.Names name →
        Carries t.fields name (w.fields.find? name) (w'.fields.find? name)) ∧
      (w.version = version → w'.typeName = w.typeName → Updates t.fields fields version w w') := by
  intro seen held
  obtain ⟨w, w', values, hload, hread, hanswer, hsave⟩ := saved_of_updateScript h
  have hheld : (run between seen).2 = held := (run_append before between empty).symm
  rw [hheld] at hsave
  obtain ⟨t, ht, hname, hreplaces, hcarries⟩ := carries_of_saveItem hread hsave
  obtain ⟨k, r, u, hid, hlive, hu, hshow, hversion⟩ := exists_row_of_loadItem hload
  -- The row that is saved over is that of the item that was loaded.
  obtain ⟨k', r', -, -, -, -, hid', hlive', hbased, -⟩ := saveItem_runOn_eq_ok.1 hsave
  obtain rfl : k' = k := by
    obtain ⟨_, _, -, -, rfl⟩ := show_eq_ok.1 hshow
    obtain ⟨-, hrid, -⟩ := live_of_findLive hlive
    have hid' : itemId? (idText r.id) = some k' := hid'
    rw [eq_of_itemId?_idText hid', hrid]
  have hnumbered : Numbered seen := numbered_empty.run before
  rw [← hheld] at hlive'
  have hcount := version_of_live hnumbered hlive hlive'
  have hbased : r'.version = version := hbased rfl
  have hgiven : version = w.version + writesTo k' between seen := by omega
  have hagain : (loadItem id).runOn held = (.ok w, held) ↔ w.version = version := by
    rw [← hheld, loadItem_again_iff hnumbered hid hload hlive']
    omega
  refine ⟨k', w, w', t, hid, hload, hanswer, ht, hname, hreplaces, hgiven, hagain, hcarries, ?_⟩
  intro hcurrent hkept
  have hsame : changed w version typeName values = changed w version none values := by
    rw [changed, changed, ← hname, hkept]
    rfl
  rw [hsame] at hsave
  obtain ⟨t', ht', hupdates, -⟩ := exists_updates hops rfl (hagain.2 hcurrent) hread hsave
  obtain rfl : t = t' := by
    rw [← hkept] at ht'
    exact Option.some.inj (Except.ok.inj (ht.symm.trans ht'))
  exact hupdates

/-- Another caller makes an item, writes it and deletes it. -/
def otherItem : List Operation :=
  [.createItem 2 "t" .empty "v", .saveItem 3 true ⟨"2", "t", 0, .empty, none, none⟩,
    .deleteItem 4 "2"]

/-- Another caller writes the item. -/
def otherNote : List Operation :=
  [.saveItem 2 true ⟨"1", "t", 0, Record.empty.insert "note" (.str "b"), none, none⟩]

theorem wellFormed_otherItem : ∀ op ∈ noteRun ++ otherItem, op.WellFormed := by
  rw [List.forall_mem_append]
  refine ⟨wellFormed_noteRun, ?_⟩
  simp [otherItem, Operation.WellFormed, Record.wellFormed_empty]

theorem wellFormed_otherNote : ∀ op ∈ noteRun ++ otherNote, op.WellFormed := by
  rw [List.forall_mem_append]
  refine ⟨wellFormed_noteRun, ?_⟩
  intro op hop
  obtain rfl := List.mem_singleton.1 hop
  exact Record.wellFormed_empty.insert "note" (v := .str "b") trivial

/-- Others write another item in between. What was loaded is still current, and the tag stays. -/
theorem updateItem_among_otherItem : ∃ done s' w w',
    ((Command.updateItem "1" 0 none noteFields).script {} firstFresh).runAmong
      [noteRun, otherItem] empty = (.ok done, s') ∧
    (loadItem "1").runOn (run (noteRun ++ otherItem) empty).2 =
      (.ok w, (run (noteRun ++ otherItem) empty).2) ∧
    done.answer = .item w' ∧ w'.version = 1 ∧ w'.fields.find? "tag" = w.fields.find? "tag" := by
  have hok : (((Command.updateItem "1" 0 none noteFields).script {} firstFresh).runAmong
      [noteRun, otherItem] empty).1.toBool = true := by
    decide +kernel
  rcases hrun : ((Command.updateItem "1" 0 none noteFields).script {} firstFresh).runAmong
    [noteRun, otherItem] empty with ⟨f | done, s'⟩
  · rw [hrun] at hok
    cases hok
  obtain ⟨k, w, w', t, hid, -, hanswer, -, hkept, -, hgiven, hagain, -, hupdates⟩ :=
    updateItem_among wellFormed_otherItem hrun
  have hzero : writesTo 1 otherItem (run noteRun empty).2 = 0 := by decide +kernel
  obtain rfl : k = 1 := by
    have hone : itemId? "1" = some 1 := by decide +kernel
    exact Option.some.inj (hid.symm.trans hone)
  have hcurrent : w.version = 0 := by omega
  have hchange := hupdates hcurrent hkept
  obtain ⟨values, hread, -, -, hnone⟩ := read_noteFields
  refine ⟨done, s', w, w', rfl, hagain.2 hcurrent, hanswer, hchange.version,
    hchange.unnamed "tag" ((FieldArguments.not_names_iff hread).2 hnone)⟩

/-- Not every update that succeeds has loaded what it writes over. -/
theorem exists_unseen_overwrite : ¬ ∀ (before between : List Operation) (paging : PagingConfig)
    (fresh : Fresh) (id : String) (version : Int) (typeName : Option String)
    (fields : FieldArguments) (done : Result) (s' : Store) (w held : WorkItem),
    (∀ op ∈ before ++ between, op.WellFormed) →
    ((Command.updateItem id version typeName fields).script paging fresh).runAmong
      [before, between] empty = (.ok done, s') →
    (loadItem id).runOn (run before empty).2 = (.ok w, (run before empty).2) →
    (loadItem id).runOn (run (before ++ between) empty).2 =
      (.ok held, (run (before ++ between) empty).2) →
    w.typeName = held.typeName ∧ w.fields = held.fields := by
  intro h
  -- The item has version 0 when it is loaded, and version 1 when it is saved.
  have hok : (((Command.updateItem "1" 1 none ⟨none, ["n=7"]⟩).script {} firstFresh).runAmong
      [noteRun, otherNote] empty).1.toBool = true := by
    decide +kernel
  have hseen : (((loadItem "1").runOn (run noteRun empty).2).1.toOption.map
      (·.fields.find? "note")) = some (some (.str "a")) := by decide +kernel
  have hheld : (((loadItem "1").runOn (run (noteRun ++ otherNote) empty).2).1.toOption.map
      (·.fields.find? "note")) = some (some (.str "b")) := by decide +kernel
  rcases hrun : ((Command.updateItem "1" 1 none ⟨none, ["n=7"]⟩).script {} firstFresh).runAmong
    [noteRun, otherNote] empty with ⟨f | done, s'⟩
  · rw [hrun] at hok
    cases hok
  rcases hload : (loadItem "1").runOn (run noteRun empty).2 with ⟨e | w, s₁⟩
  · rw [hload] at hseen
    cases hseen
  obtain rfl := (readOnly_loadItem "1").eq_of_runOn hload
  rcases hload' : (loadItem "1").runOn (run (noteRun ++ otherNote) empty).2 with ⟨e | held, s₂⟩
  · rw [hload'] at hheld
    cases hheld
  obtain rfl := (readOnly_loadItem "1").eq_of_runOn hload'
  obtain ⟨-, hsame⟩ := h _ _ _ _ _ _ _ _ _ _ _ _ wellFormed_otherNote hrun hload hload'
  rw [hload] at hseen
  rw [hload'] at hheld
  have hseen : w.fields.find? "note" = some (.str "a") := Option.some.inj hseen
  have hheld : held.fields.find? "note" = some (.str "b") := Option.some.inj hheld
  rw [hsame, hheld] at hseen
  exact absurd hseen (by decide)

end Backlog.Store
