import Backlog.Command.Script
import Backlog.Proofs.Command.Fields
import Backlog.Proofs.Field.Refusal
import Backlog.Proofs.Field.Replaced
import Backlog.Proofs.Store.ItemsReadBack

/-!
# What an update of an item changes

An update loads an item, sets and takes away some of its fields, and writes all of it back. The
other fields are converted to storage and back as well, and have to come out as they were.

**Main statement (`Store.updateItem_decides`).** In every store that a run leads to, an update that
keeps the type and succeeds answers with an item that has changed in what the arguments give values
for, and in nothing else (`Store.Updates`); it replaces the row of the item (`Store.Replaces`). One
that fails changes nothing, and it fails if the arguments are malformed, if the version is not the
item's, or if a value is refused.

**Fields that are not named** stay because what is shown of a stored form is stored as the same form
or not at all (`FieldDefinition.gives_toStorage_shown`).

**Loading the item afterwards** reads its fields once more (`Store.Reloads`), and a floating number
may be read as another one than was written, though no argument names its field
(`Store.exists_drifting_update`).
-/

namespace Backlog

/-! ## Fields written again -/

namespace FieldSet

variable {fs : FieldSet} {held wire input stored shown : Record Json} {name : String} {v : Json}

/-- A field that is written as it was shown is shown as it was. -/
theorem find?_shown_of_same (hform : fs.StoredForm held) (hwire : fs.toWire held = .ok wire)
    (hstored : fs.toStorage input = .ok stored) (hshown : fs.toWire stored = .ok shown)
    (hsame : input.find? name = wire.find? name) : shown.find? name = wire.find? name := by
  refine find?_toWire_congr hshown hwire ?_
  obtain ⟨hdeclared, hother⟩ := convert_eq_ok_iff_gives.1 hstored
  obtain ⟨hdeclared', hother'⟩ := convert_eq_ok_iff_gives.1 hwire
  cases hd : fs.find? name with
  | none => rw [hother name hd, hsame, hother' name hd]
  | some d =>
    have hgives := hdeclared name d hd
    rw [hsame] at hgives
    exact ((FieldDefinition.gives_toStorage_shown (hform name d hd) (hdeclared' name d hd)).1
      hgives).1

variable (hstored : fs.toStorage input = .ok stored) (hshown : fs.toWire stored = .ok shown)

include hstored hshown

theorem find?_shown_of_undeclared (hd : fs.find? name = none) :
    shown.find? name = input.find? name := by
  rw [(convert_eq_ok_iff_gives.1 hshown).2 name hd, (convert_eq_ok_iff_gives.1 hstored).2 name hd]

theorem find?_shown_of_absent (hnone : input.find? name = none) : shown.find? name = none := by
  cases hd : fs.find? name with
  | none => rw [find?_shown_of_undeclared hstored hshown hd, hnone]
  | some d =>
    rw [Option.eq_none_iff_forall_ne_some]
    intro y hy
    obtain ⟨x, hx, -⟩ := ((convert_eq_ok.1 hshown).find?_declared hd).1 hy
    obtain ⟨v, hv, -⟩ := ((convert_eq_ok.1 hstored).find?_declared hd).1 hx
    rw [hnone] at hv
    cases hv

theorem find?_shown_of_declared {d : FieldDefinition} (hd : fs.find? name = some d)
    (hv : input.find? name = some v) (hne : v ≠ .null) :
    ∃ x y, d.type.toStorage v = .ok x ∧ d.type.toWire x = .ok y ∧ shown.find? name = some y := by
  obtain ⟨x, hx, hfound⟩ := (convert_eq_ok.1 hstored).convertsTo.declared name d v hd hv hne
  have hxne : x ≠ .null := FieldType.ne_null_of_convert hx hne
  obtain ⟨y, hy, hfound'⟩ := (convert_eq_ok.1 hshown).convertsTo.declared name d x hd hfound hxne
  exact ⟨x, y, hx, hy, hfound'⟩

end FieldSet

namespace Store

open Command (updateScript changed)
open Store.Action

variable {s s' : Store} {k : Nat} {r : ItemRow} {t : ItemType} {w w' : WorkItem}
  {held values stored shown : Record Json} {id : String} {now version : Int}
  {fields : FieldArguments}

/-! ## Steps of an update -/

/-- An update ends where it cannot load the item, read its arguments, or save the item, and
otherwise with what saving answers. -/
inductive UpdateEnds (s : Store) (now : Int) (id : String) (version : Int)
    (fields : FieldArguments) : Except Failure Result × Store → Prop
  | unloaded {e : Error} (load : (loadItem id).runOn s = (.error e, s)) :
    UpdateEnds s now id version fields (.error (.refused [] e), s)
  | unread {w : WorkItem} {f : Failure} (load : (loadItem id).runOn s = (.ok w, s))
    (read : fields.read = .error f) : UpdateEnds s now id version fields (.error f, s)
  | unsaved {w : WorkItem} {values : Record Json} {e : Error}
    (load : (loadItem id).runOn s = (.ok w, s)) (read : fields.read = .ok values)
    (save : (saveItem .own now true (changed w version none values)).runOn s = (.error e, s)) :
    UpdateEnds s now id version fields (.error (.refused [] e), s)
  | saved {w w' : WorkItem} {values : Record Json} {s' : Store}
    (load : (loadItem id).runOn s = (.ok w, s)) (read : fields.read = .ok values)
    (save : (saveItem .own now true (changed w version none values)).runOn s = (.ok w', s')) :
    UpdateEnds s now id version fields (.ok ⟨.item w', .plain⟩, s')

theorem run_ask {α : Type} (op : Operation) (next : Except Error Answer → Script α) (s : Store) :
    (Script.ask op next).run s = (next (op.run s).1).run (op.run s).2 := rfl

theorem run_loadItem (id : String) (s : Store) : (Operation.loadItem id).run s =
    (((loadItem id).runOn s).1.map .item, ((loadItem id).runOn s).2) := runOn_map _ _ s

theorem run_saveItem (now : Int) (checked : Bool) (item : WorkItem) (s : Store) :
    (Operation.saveItem now checked item).run s =
      (((saveItem .own now checked item).runOn s).1.map .item,
        ((saveItem .own now checked item).runOn s).2) := runOn_map _ _ s

theorem guarded_saveItem {item : WorkItem} : Guarded (saveItem .own now true item) :=
  (readOnly_itemIdOf item.id).guarded_bind fun _ => guarded_transaction_own _

theorem updateEnds (s : Store) (now : Int) (id : String) (version : Int)
    (fields : FieldArguments) :
    UpdateEnds s now id version fields ((updateScript now id version none fields).run s) := by
  rw [updateScript, run_ask, run_loadItem]
  rcases hload : (loadItem id).runOn s with ⟨e | w, s₁⟩
  · obtain rfl := (readOnly_loadItem id).eq_of_runOn hload
    exact .unloaded hload
  · obtain rfl := (readOnly_loadItem id).eq_of_runOn hload
    cases hread : fields.read with
    | error f => exact .unread hload hread
    | ok values =>
      show UpdateEnds s now id version fields ((Command.askLast _).run s)
      rw [Command.askLast, run_ask, run_saveItem]
      rcases hsave : (saveItem .own now true (changed w version none values)).runOn s with
        ⟨e | w', s'⟩
      · obtain rfl := guarded_saveItem s e s' hsave
        exact .unsaved hload hread hsave
      · exact .saved hload hread hsave

namespace UpdateEnds

variable {ended : Except Failure Result × Store} (h : UpdateEnds s now id version fields ended)

include h

theorem eq_of_error {f : Failure} (hended : ended = (.error f, s')) : s' = s := by
  subst hended
  cases h <;> rfl

/-- An update that never gets to save an item is refused. -/
theorem exists_error (hnever : ∀ w values w' s', (loadItem id).runOn s = (.ok w, s) →
    fields.read = .ok values →
      (saveItem .own now true (changed w version none values)).runOn s ≠ (.ok w', s')) :
    ∃ f, ended = (.error f, s) := by
  cases h with
  | unloaded load => exact ⟨_, rfl⟩
  | unread load read => exact ⟨_, rfl⟩
  | unsaved load read save => exact ⟨_, rfl⟩
  | saved load read save => exact absurd save (hnever _ _ _ _ load read)

end UpdateEnds

/-! ## What an update changes -/

/-- The second item is the first one, based on the version, with the values that were given. -/
structure Updates (fs : FieldSet) (fields : FieldArguments) (version : Int) (w w' : WorkItem) :
    Prop where
  id : w'.id = w.id
  typeName : w'.typeName = w.typeName
  based : w.version = version
  version : w'.version = version + 1
  unnamed : ∀ name, ¬ fields.Names name → w'.fields.find? name = w.fields.find? name
  cleared : ∀ name, fields.Gives name .null → w'.fields.find? name = none
  declared : ∀ name v d, fields.Gives name v → v ≠ .null → fs.find? name = some d →
    ∃ x y, d.type.toStorage v = .ok x ∧ d.type.toWire x = .ok y ∧ w'.fields.find? name = some y
  undeclared : ∀ name v, fields.Gives name v → v ≠ .null → fs.find? name = none →
    w'.fields.find? name = some v

/-- The row of an item, which was live, holds stored values that the item shows. All else is as it
was. -/
def Replaces (s : Store) (now : Int) (t : ItemType) (w' : WorkItem) (s' : Store) : Prop :=
  ∃ k r stored, findLive k s = .ok (some r) ∧ w'.id = idText k ∧
    t.fields.toWire stored = .ok w'.fields ∧
      s' = mapItem k (ItemRow.written w'.typeName w'.version (Json.ofRecord stored).text now) s

/-- What loading an item shows once it has been answered: its fields as they are read from their
text, so that it is the item that was answered exactly if they come back from there. -/
structure Reloads (s : Store) (id : String) (w : WorkItem) : Prop where
  same : (loadItem id).runOn s = (.ok w, s) ↔ w.fields.ComesBack
  reread : ∀ found, (loadItem id).runOn s = (.ok found, s) →
    found = { w with fields := found.fields } ∧
      ∀ name, found.fields.find? name = (w.fields.find? name).bind Json.reread?

/-- Some value is refused by the type: `null` where one is required, or another one that does not
convert. -/
def RefusesGiven (fs : FieldSet) (fields : FieldArguments) : Prop :=
  ∃ name d v e, fields.Gives name v ∧ fs.find? name = some d ∧
    d.Refuses .toStorage name (some v) e

theorem find?_changed (hread : fields.read = .ok values) {name : String} {v : Json}
    (h : fields.Gives name v) : (changed w version none values).fields.find? name =
      if v.isNull then none else some v := by
  show (FieldArguments.applyTo values w.fields).find? name = _
  rw [FieldArguments.find?_applyTo, (FieldArguments.find?_of_read hread).2 h]

theorem find?_changed_of_ne (hread : fields.read = .ok values) {name : String} {v : Json}
    (h : fields.Gives name v) (hne : v ≠ .null) :
    (changed w version none values).fields.find? name = some v := by
  rw [find?_changed hread h, Json.isNull_eq_false.2 hne]
  rfl

theorem find?_changed_of_unnamed (hread : fields.read = .ok values) {name : String}
    (h : ¬ fields.Names name) :
    (changed w version none values).fields.find? name = w.fields.find? name := by
  have hnone : values.find? name = none := (FieldArguments.not_names_iff hread).1 h
  show (FieldArguments.applyTo values w.fields).find? name = _
  rw [FieldArguments.find?_applyTo, hnone]

/-- An item is not saved with a value that its type refuses. -/
theorem saveItem_ne_ok_of_refusesGiven (ht : findType w.typeName s = .ok (some t))
    (hread : fields.read = .ok values) (h : RefusesGiven t.fields fields) :
    (saveItem .own now true (changed w version none values)).runOn s ≠ (.ok w', s') := by
  intro hsave
  obtain ⟨_, _, t', stored, _, _, -, -, -, ht', hstored, -⟩ := saveItem_runOn_eq_ok.1 hsave
  obtain rfl : t = t' := by
    have ht' : findType w.typeName s = .ok (some t') := ht'
    simpa [ht] using ht'
  obtain ⟨name, d, v, e, hgives, hd, hrefuses⟩ := h
  refine FieldSet.exists_convert_iff.1 ⟨stored, hstored⟩ name e ⟨d, hd, ?_⟩
  rw [find?_changed hread hgives]
  cases hrefuses with
  | null required => exact .absent required
  | rejected present rejected =>
    rw [Json.isNull_eq_false.2 present]
    exact .rejected present rejected

theorem updates_of_saveItem (hshown : Shown s k r t held w) (hid : itemId? w.id = some k)
    (hread : fields.read = .ok values)
    (hsave : (saveItem .own now true (changed w version none values)).runOn s = (.ok w', s')) :
    Updates t.fields fields version w w' ∧ Replaces s now t w' s' := by
  obtain ⟨k', r', t', stored, text, fields', hid', hlive, hseen, ht, hstored, hversion, htext,
    hwire, rfl, rfl⟩ := saveItem_runOn_eq_ok.1 hsave
  obtain rfl : k = k' := Option.some.inj (hid.symm.trans hid')
  obtain rfl : r = r' := by simpa [hshown.live] using hlive
  obtain rfl : t = t' := by
    have ht : findType w.typeName s = .ok (some t') := ht
    simpa [hshown.typeName, hshown.type] using ht
  have hbased : r.version = version := hseen rfl
  have hnext : nextVersion r.version = version + 1 := by rw [nextVersion_eq hversion, hbased]
  refine ⟨?_, k, r, stored, hlive, rfl, hwire, ?_⟩
  · constructor
    case id => exact hshown.id.symm
    case typeName => exact hshown.type_name
    case based => rw [hshown.version, hbased]
    case version => exact hnext
    case unnamed =>
      intro name hname
      exact FieldSet.find?_shown_of_same hshown.form hshown.wire hstored hwire
        (find?_changed_of_unnamed hread hname)
    case cleared =>
      intro name hgives
      exact FieldSet.find?_shown_of_absent hstored hwire (find?_changed hread hgives)
    case declared =>
      intro name v d hgives hne hd
      exact FieldSet.find?_shown_of_declared hstored hwire hd
        (find?_changed_of_ne hread hgives hne) hne
    case undeclared =>
      intro name v hgives hne hd
      exact (FieldSet.find?_shown_of_undeclared hstored hwire hd).trans
        (find?_changed_of_ne hread hgives hne)
  · rw [(storedText_eq_ok.1 htext).2]

theorem loadItem_congr {id' : String} (h : itemId? id = itemId? id') :
    (loadItem id).runOn s = (.ok w, s') ↔ (loadItem id').runOn s = (.ok w, s') := by
  rw [loadItem_runOn_eq_ok, loadItem_runOn_eq_ok, h]

theorem Written.reloads (h : Written s r t stored w) (hs : Numbered s)
    (hid : itemId? id = some k) (hsame : itemId? w.id = some k) : Reloads s id w where
  same := by
    rw [loadItem_congr (hid.trans hsame.symm), h.loadItem_eq_ok hs]
    exact and_iff_right ⟨k, hsame⟩
  reread found hload := by
    rw [loadItem_congr (hid.trans hsame.symm), h.loadItem_iff hs] at hload
    exact h.of_showListed hload.2

theorem Shown.wellFormed (h : Shown s k r t held w)
    (hkept : ∃ t stored, ItemRow.Kept s r t stored) : w.fields.WellFormed := by
  obtain ⟨_, stored, hkept⟩ := hkept
  obtain ⟨-, hread⟩ := (readFields_eq_ok hkept).1 h.read
  exact FieldSet.wellFormed_of_convert h.wire (hread.wellFormed hkept.2.2.1)

theorem reloads_of_saveItem {ops : List Operation} (hops : ∀ op ∈ ops, op.WellFormed)
    (hs : (run ops empty).2 = s) {item : WorkItem} (hitem : item.fields.WellFormed)
    (hsave : (saveItem .own now true item).runOn s = (.ok w', s'))
    (hid : itemId? id = some k) (hsame : itemId? w'.id = some k) : Reloads s' id w' := by
  subst hs
  have hrun : (Operation.saveItem now true item).run (run ops empty).2 =
      (.ok (.item w'), s') := by
    rw [run_saveItem, hsave]
    rfl
  have heffect := Operation.effect_of_run hrun
  have hop : (Operation.saveItem now true item).WellFormed := hitem
  have hlooks : ¬ (Operation.saveItem now true item).Looks := fun looks => looks
  obtain ⟨r, t, stored, hwritten⟩ := exists_written hops hop hlooks heffect
  exact hwritten.reloads ((numbered_empty.run ops).effect heffect) hid hsame

/-- An item that is loaded, changed and saved is changed as the arguments say. -/
theorem exists_updates {ops : List Operation} (hops : ∀ op ∈ ops, op.WellFormed)
    (hs : (run ops empty).2 = s) (hload : (loadItem id).runOn s = (.ok w, s))
    (hread : fields.read = .ok values)
    (hsave : (saveItem .own now true (changed w version none values)).runOn s = (.ok w', s')) :
    ∃ t, findType w.typeName s = .ok (some t) ∧ Updates t.fields fields version w w' ∧
      Replaces s now t w' s' ∧ Reloads s' id w' := by
  obtain ⟨k, r, t, held, hid, hshown⟩ := shown_of_loadItem hops hs hload
  have hsame : itemId? w.id = some k := hshown.id ▸ itemId?_idText hid
  obtain ⟨hupdates, hreplaces⟩ := updates_of_saveItem hshown hsame hread hsave
  have hkept : ∃ t stored, ItemRow.Kept s r t stored :=
    hs ▸ AllKept.run hops r (hs ▸ (live_of_findLive hshown.live).1)
  have hchanged : (changed w version none values).fields.WellFormed :=
    FieldArguments.wellFormed_applyTo (FieldArguments.wellFormed_of_read hread)
      (hshown.wellFormed hkept)
  exact ⟨t, hshown.typeName ▸ hshown.type, hupdates, hreplaces,
    reloads_of_saveItem hops hs hchanged hsave hid (hupdates.id ▸ hsame)⟩

/-- **What an update changes.** After every run, an update that keeps the type and succeeds changes
the item as its arguments say, and replaces its row; loading the item then shows its fields as they
are read from their text. One that fails leaves the store as it is; it fails if the arguments are
malformed, if the item has another version than the one that is given, and if the type refuses a
value that is given. -/
theorem updateItem_decides {ops : List Operation} (hops : ∀ op ∈ ops, op.WellFormed)
    (hs : (run ops empty).2 = s) (paging : PagingConfig) (fresh : Fresh) (id : String)
    (version : Int) (fields : FieldArguments) :
    let update := ((Command.updateItem id version none fields).script paging fresh).run s
    (∀ r s', update = (.ok r, s') → ∃ w w' t, (loadItem id).runOn s = (.ok w, s) ∧
        findType w.typeName s = .ok (some t) ∧ r.answer = .item w' ∧
          Updates t.fields fields version w w' ∧ Replaces s fresh.now t w' s' ∧
            Reloads s' id w') ∧
      (∀ f s', update = (.error f, s') → s' = s) ∧
      (fields.Malformed → ∃ f, update = (.error f, s)) ∧
      ∀ w, (loadItem id).runOn s = (.ok w, s) →
        (w.version ≠ version → ∃ f, update = (.error f, s)) ∧
          ∀ t, findType w.typeName s = .ok (some t) → RefusesGiven t.fields fields →
            ∃ f, update = (.error f, s) := by
  intro update
  have hends : UpdateEnds s fresh.now id version fields update :=
    updateEnds s fresh.now id version fields
  generalize update = ended at hends
  refine ⟨?_, fun f s' => hends.eq_of_error, ?_, fun w hload => ⟨?_, ?_⟩⟩
  · intro r s' hok
    subst hok
    cases hends with
    | saved load read save =>
      obtain ⟨t, ht, hchange⟩ := exists_updates hops hs load read save
      exact ⟨_, _, t, load, ht, rfl, hchange⟩
  · intro hmalformed
    refine hends.exists_error fun w values w' s' _ hread _ => ?_
    exact FieldArguments.exists_read_iff.1 ⟨values, hread⟩ hmalformed
  · intro hstale
    refine hends.exists_error fun u values w' s' hload' hread hsave => hstale ?_
    obtain rfl : w = u := Except.ok.inj (Prod.mk.inj (hload.symm.trans hload')).1
    obtain ⟨t, -, hupdates, -⟩ := exists_updates hops hs hload hread hsave
    exact hupdates.based
  · intro t ht hrefuses
    refine hends.exists_error fun u values w' s' hload' hread => ?_
    obtain rfl : w = u := Except.ok.inj (Prod.mk.inj (hload.symm.trans hload')).1
    exact saveItem_ne_ok_of_refusesGiven ht hread hrefuses

/-! ## One update -/

/-- An item is made with a note and a tag. -/
def noteRun : List Operation :=
  [.createType none "t" (Record.empty.insert "n" ⟨false, .scalar .integer⟩),
    .createItem 0 "t" ((Record.empty.insert "note" (.str "a")).insert "tag" (.str "b")) "u"]

theorem wellFormed_noteRun : ∀ op ∈ noteRun, op.WellFormed := by
  intro op hop
  rcases List.mem_cons.1 hop with rfl | hop
  · trivial
  obtain rfl := List.mem_singleton.1 hop
  exact (Record.wellFormed_empty.insert "note" (v := .str "a") trivial).insert "tag"
    (v := .str "b") trivial

/-- The assignments change the number and the note of the object. -/
def noteFields : FieldArguments := ⟨some "\x7b\"n\":1,\"note\":\"c\"\x7d", ["n=7", "note=null"]⟩

theorem read_noteFields : ∃ values, noteFields.read = .ok values ∧
    values.find? "n" = some (.int 7) ∧ values.find? "note" = some .null ∧
      values.find? "tag" = none := by
  have hfound : (noteFields.read.toOption.map fun r =>
      (r.find? "n", r.find? "note", r.find? "tag")) = some (some (.int 7), some .null, none) := by
    decide +kernel
  cases hread : noteFields.read with
  | error f =>
    rw [hread] at hfound
    cases hfound
  | ok values =>
    rw [hread] at hfound
    simpa [Except.toOption] using hfound

def firstFresh : Fresh := ⟨1, ⟨21, by decide⟩, ⟨22, by decide⟩⟩

/-- The number is set, the note is taken away and the tag stays, as the item is loaded then. -/
theorem updateItem_decides_noteRun : ∃ r s' w w',
    ((Command.updateItem "1" 0 none noteFields).script {} firstFresh).run (run noteRun empty).2 =
      (.ok r, s') ∧ (loadItem "1").runOn (run noteRun empty).2 = (.ok w, (run noteRun empty).2) ∧
      r.answer = .item w' ∧ w'.version = 1 ∧ w'.fields.find? "n" = some (.int 7) ∧
      w'.fields.find? "note" = none ∧ w'.fields.find? "tag" = w.fields.find? "tag" ∧
      (loadItem "1").runOn s' = (.ok w', s') := by
  obtain ⟨hdone, -⟩ := updateItem_decides wellFormed_noteRun rfl {} firstFresh "1" 0 noteFields
  have hback : ((((Command.updateItem "1" 0 none noteFields).script {} firstFresh).run
      (run noteRun empty).2).1.toOption.bind (·.answer.fields?)).map
        (fun fields => decide fields.ComesBack) = some true := by
    decide +kernel
  have hseven : (((loadItem "1").runOn (run noteRun empty).2).1.toOption.bind fun w =>
      (findType w.typeName (run noteRun empty).2).toOption.join.map fun t =>
        (t.fields.find? "n").map fun d =>
          ((d.type.toStorage (.int 7)).toOption, (d.type.toWire (.int 7)).toOption)) =
      some (some (some (.int 7), some (.int 7))) := by
    decide +kernel
  rcases hrun : ((Command.updateItem "1" 0 none noteFields).script {} firstFresh).run
    (run noteRun empty).2 with ⟨f | r, s'⟩
  · rw [hrun] at hback
    cases hback
  obtain ⟨w, w', t, hload, ht, hanswer, hupdates, -, hreloads⟩ := hdone r s' hrun
  have hback : w'.fields.ComesBack := by
    simpa [hrun, Except.toOption, hanswer, Answer.fields?] using hback
  obtain ⟨d, hd, hstores, hshows⟩ : ∃ d, t.fields.find? "n" = some d ∧
      (d.type.toStorage (.int 7)).toOption = some (.int 7) ∧
        (d.type.toWire (.int 7)).toOption = some (.int 7) := by
    simpa [hload, ht, Except.toOption] using hseven
  obtain ⟨values, hread, hnumber, hnull, hnone⟩ := read_noteFields
  have hgives {name : String} {v : Json} :=
    @FieldArguments.find?_of_read noteFields name v values hread
  obtain ⟨x, y, hx, hy, hfound⟩ := hupdates.declared "n" _ d (hgives.1 hnumber) (by simp) hd
  rw [hx] at hstores
  obtain rfl : x = .int 7 := Option.some.inj hstores
  rw [hy] at hshows
  obtain rfl : y = .int 7 := Option.some.inj hshows
  exact ⟨r, s', w, w', rfl, hload, hanswer, hupdates.version, hfound,
    hupdates.cleared "note" (hgives.1 hnull),
    hupdates.unnamed "tag" ((FieldArguments.not_names_iff hread).2 hnone), hreloads.same.2 hback⟩

/-! ## The gap -/

/-- An item is made with a number whose text is read as another one. -/
def tinyRun : List Operation :=
  [.createType none "t" .empty,
    .createItem 0 "t" (Command.newFields (Record.empty.insert "x" (.float tinyNext))) "u"]

theorem wellFormed_tinyRun : ∀ op ∈ tinyRun, op.WellFormed := by
  intro op hop
  rcases List.mem_cons.1 hop with rfl | hop
  · trivial
  obtain rfl := List.mem_singleton.1 hop
  exact (Record.wellFormed_empty.insert "x" (v := .float tinyNext) trivial).insert
    WorkItem.stateField (v := .str WorkItem.newState) trivial

def onlyNote : FieldArguments := ⟨none, ["note=a"]⟩

theorem not_names_onlyNote : ¬ onlyNote.Names "x" := by
  have hfound : (onlyNote.read.toOption.map (·.find? "x")) = some none := by decide +kernel
  cases hread : onlyNote.read with
  | error f =>
    rw [hread] at hfound
    cases hfound
  | ok values =>
    rw [hread] at hfound
    exact (FieldArguments.not_names_iff hread).2 (Option.some.inj hfound)

/-- An update of the note makes another number of `x`. -/
theorem exists_drifting_update : ¬ ∀ (ops : List Operation) (paging : PagingConfig) (fresh : Fresh)
    (id : String) (version : Int) (fields : FieldArguments) (w : WorkItem) (done : Result)
    (s' : Store), (∀ op ∈ ops, op.WellFormed) →
    (loadItem id).runOn (run ops empty).2 = (.ok w, (run ops empty).2) →
    ((Command.updateItem id version none fields).script paging fresh).run (run ops empty).2 =
      (.ok done, s') →
    ∃ found, (loadItem id).runOn s' = (.ok found, s') ∧
      ∀ name, ¬ fields.Names name → found.fields.find? name = w.fields.find? name := by
  intro h
  have hbefore : (((loadItem "1").runOn (run tinyRun empty).2).1.toOption.map
      (·.fields.find? "x")) = some (some (.float tiny)) := by decide +kernel
  have hafter : (((loadItem "1").runOn (((Command.updateItem "1" 0 none onlyNote).script {}
      firstFresh).run (run tinyRun empty).2).2).1.toOption.map (·.fields.find? "x")) =
        some (some (.float tinyNext)) := by decide +kernel
  have hok : (((Command.updateItem "1" 0 none onlyNote).script {} firstFresh).run
      (run tinyRun empty).2).1.toBool = true := by decide +kernel
  rcases hload : (loadItem "1").runOn (run tinyRun empty).2 with ⟨e | w, s₁⟩
  · rw [hload] at hbefore
    cases hbefore
  obtain rfl := (readOnly_loadItem "1").eq_of_runOn hload
  rcases hrun : ((Command.updateItem "1" 0 none onlyNote).script {} firstFresh).run
    (run tinyRun empty).2 with ⟨f | done, s'⟩
  · rw [hrun] at hok
    cases hok
  obtain ⟨found, hfound, hsame⟩ := h _ _ _ _ _ _ _ _ _ wellFormed_tinyRun hload hrun
  rw [hload] at hbefore
  rw [hrun, hfound] at hafter
  have hbefore : w.fields.find? "x" = some (.float tiny) := Option.some.inj hbefore
  have hafter : found.fields.find? "x" = some (.float tinyNext) := Option.some.inj hafter
  rw [hsame "x" not_names_onlyNote, hbefore] at hafter
  exact absurd hafter (by decide)

end Store

end Backlog
