import Backlog.Proofs.Field.Replaced
import Backlog.Proofs.Store.Deletion
import Backlog.Proofs.Store.ItemsReadBack
import Backlog.Proofs.Store.Registry

/-!
# How an assignment is decided

An assignment looks for the item, at its version, at what the row holds, at who is asked for, and at
what the type makes of the values, in this order. Then it writes one row.

**Main statement (`assignItem_decides`).** Every way in which an assignment can end, with all that
has to hold for it (`Decides`). If it succeeds, the item shows the fields that it showed before but
for the assignee, under the next version, and nothing else in the store changes (`Reassigns`).

**The gap** (`exists_assignment_misreported`). A row that cannot be read back is a failure of the
store, whoever is asked for.
-/

namespace Backlog.Store

open Store.Action

variable {s s' : Store} {r : ItemRow} {t : ItemType} {w : WorkItem} {id version : String}
  {assignee : Option String} {user : Option Uuid} {held wire stored : Record Json} {now : Int}

/-! ## What is looked at -/

/-- The text names the live row. -/
structure Names (s : Store) (id : String) (r : ItemRow) : Prop where
  key : itemId? id = some r.id
  row : r ∈ s.items
  live : r.deleted = false

/-- The row is named, at its version. -/
structure Current (s : Store) (id version : String) (r : ItemRow) : Prop extends Names s id r where
  version : version = String.ofList (Json.intChars r.version)

/-- The row is named at its version, and what it holds has been read. -/
structure Opened (s : Store) (id version : String) (r : ItemRow) (t : ItemType)
    (held : Record Json) : Prop extends Current s id version r where
  type : findType r.typeName s = .ok (some t)
  read : ItemRow.readFields r = .ok held

/-- Nobody is asked for, or an identity that is there. -/
inductive Asks (s : Store) : Option String → Option Uuid → Prop
  | clear : Asks s none none
  | identity {given : String} {u : Uuid} (read : Uuid.read (Text.trim given) = .ok u)
    (known : identityExists u s = true) : Asks s (some given) (some u)

/-- Values with the assignee set or taken away. -/
def reassigned (user : Option Uuid) (held : Record Json) : Record Json :=
  match user with
  | none => held.erase WorkItem.assigneeField
  | some u => held.insert WorkItem.assigneeField (.str u.text)

theorem find?_reassigned_self (user : Option Uuid) (held : Record Json) :
    (reassigned user held).find? WorkItem.assigneeField = user.map fun u => .str u.text := by
  cases user with
  | none => rw [reassigned, Record.find?_erase, if_pos rfl, Option.map_none]
  | some u => rw [reassigned, Record.find?_insert, if_pos rfl, Option.map_some]

theorem find?_reassigned_of_ne {name : String} (hne : name ≠ WorkItem.assigneeField) :
    (reassigned user held).find? name = held.find? name := by
  cases user with
  | none => rw [reassigned, Record.find?_erase, if_neg hne.symm]
  | some u => rw [reassigned, Record.find?_insert, if_neg hne.symm]

theorem plain_reassigned (user : Option Uuid) (held : Record Json) :
    Json.Plain ((reassigned user held).find? WorkItem.assigneeField) := by
  rw [find?_reassigned_self]
  cases user with
  | none => exact .inl rfl
  | some u => exact .inr ⟨u.text, u.trim_text, rfl⟩

theorem Asks.runOn_assigned (h : Asks s assignee user) (held : Record Json) :
    (assigned held assignee).runOn s = (.ok (reassigned user held), s) := by
  cases h with
  | clear => rfl
  | identity read known =>
    rw [assigned, read]
    simp only [get_bind_runOn, known, if_true]
    rfl

/-! ## The row that is written -/

/-- The item is shown as before but for the assignee, and one row is written. -/
structure Reassigns (s : Store) (id : String) (r : ItemRow) (held : Record Json)
    (user : Option Uuid) (now : Int) (w : WorkItem) (s' : Store) : Prop where
  sameId : w.id = idText r.id
  version : w.version = r.version + 1
  typeName : w.typeName = r.typeName
  assignee : w.fields.find? WorkItem.assigneeField = user.map fun u => .str u.text
  fields : ∀ before, (loadItem id).runOn s = (.ok before, s) →
    w.fields = reassigned user before.fields
  store : s' = mapItem r.id (ItemRow.written r.typeName (r.version + 1)
    (Json.ofRecord (reassigned user held)).text now) s

/-- What is shown with the assignee replaced is what was shown before but for the assignee. -/
theorem eq_reassigned_of_toWire {shown : Record Json}
    (hwire : t.fields.toWire (reassigned user held) = .ok wire)
    (hassignee : wire.find? WorkItem.assigneeField =
      (reassigned user held).find? WorkItem.assigneeField)
    (hshown : t.fields.toWire held = .ok shown) : wire = reassigned user shown := by
  refine Record.ext_find? fun name => ?_
  by_cases hne : name = WorkItem.assigneeField
  · rw [hne, hassignee, find?_reassigned_self, find?_reassigned_self]
  · rw [find?_reassigned_of_ne hne]
    exact FieldSet.find?_toWire_congr hwire hshown (find?_reassigned_of_ne hne)

/-! ## Steps -/

theorem Names.findLive (h : Names s id r) (hnumbered : Numbered s)
    (hreadable : r.unreadable = none) : findLive r.id s = .ok (some r) := by
  refine findLive_eq_ok.2 ⟨find?_eq_some_of_unique h.row (by simp [h.live]) fun q hq hid => ?_,
    hreadable⟩
  exact hnumbered.eq_of_id hq h.row (by simpa using And.left (by simpa using hid))

theorem runOn_assignItem_absent (h : ¬ ∃ r, Names s id r) :
    (assignItem .own now id version assignee).runOn s = (.error (.notFound .workItem id), s) := by
  cases hid : itemId? id with
  | none =>
    rw [assignItem, runOn_bind, itemIdOf.eq_def, hid]
    rfl
  | some k =>
    have hhidden : Hidden k s := fun r hr hrid => by
      cases hlive : r.deleted with
      | true => rfl
      | false => exact (h ⟨r, by rw [hid, hrid], hr, hlive⟩).elim
    rw [assignItem, runOn_bind, runOn_itemIdOf hid]
    simp only [transaction, runOn_atomically, runOn_bind, hhidden.runOn_liveRow]

theorem runOn_assignItem_stale (h : Names s id r) (hlive : Store.findLive r.id s = .ok (some r))
    (hversion : version ≠ String.ofList (Json.intChars r.version)) :
    (assignItem .own now id version assignee).runOn s =
      (.error (.versionConflict .workItem id version r.version), s) := by
  have hrow : (liveRow r.id id).runOn s = (.ok r, s) := liveRow_runOn_eq_ok.2 ⟨hlive, rfl⟩
  rw [assignItem, runOn_bind, runOn_itemIdOf h.key]
  simp only [transaction, runOn_atomically, runOn_bind, hrow, hversion, ne_eq, not_false_eq_true,
    if_true]
  rfl

/-- After the version, the values are read, changed, shown, stored and written. -/
theorem runOn_assignItem (h : Opened s id version r t held)
    (hlive : Store.findLive r.id s = .ok (some r)) :
    (assignItem .own now id version assignee).runOn s =
      match (assigned held assignee).runOn s with
      | (.error e, _) => (.error e, s)
      | (.ok edited, _) =>
        match t.fields.toWire edited with
        | .error e => (.error e, s)
        | .ok wire =>
          match t.fields.toStorage wire with
          | .error e => (.error e, s)
          | .ok stored => (transaction .own (writeRow now t r stored)).runOn s := by
  have hrow : (liveRow r.id id).runOn s = (.ok r, s) := liveRow_runOn_eq_ok.2 ⟨hlive, rfl⟩
  have hversion := h.version
  rw [assignItem, runOn_bind, runOn_itemIdOf h.key]
  simp only [transaction, runOn_atomically, runOn_bind, hrow, hversion, ne_eq, not_true_eq_false,
    if_false, runOn_ofResult, h.read]
  rcases hassigned : (assigned held assignee).runOn s with ⟨e | edited, m⟩
  · rfl
  · obtain ⟨rfl, -⟩ := assigned_runOn_eq_ok hassigned
    simp only [runOn_get, storedType_eq_ok.2 h.type]
    cases t.fields.toWire edited with
    | error e => rfl
    | ok wire =>
      simp only
      cases t.fields.toStorage wire <;> rfl

/-! ## The write -/

/-- What is shown and stored again is what the row is going to hold, and is shown so after it. -/
theorem toStorage_reassigned {before : Record Json} (h : Opened s id version r t held)
    (hkept : ItemRow.Converted s r t before)
    (hwire : t.fields.toWire (reassigned user held) = .ok wire)
    (hstored : t.fields.toStorage wire = .ok stored) :
    stored = reassigned user held ∧ wire.find? WorkItem.assigneeField =
      (reassigned user held).find? WorkItem.assigneeField :=
  FieldSet.toStorage_shown_replaced hkept.2.1 ((readFields_eq_ok hkept.1).1 h.read).2
    (fun _ => find?_reassigned_of_ne) (plain_reassigned user held) hwire hstored

theorem reassigns_of_writeRow (now : Int) (h : Opened s id version r t held)
    (hlive : Store.findLive r.id s = .ok (some r))
    (hwire : t.fields.toWire (reassigned user held) = .ok wire)
    (hassignee : wire.find? WorkItem.assigneeField =
      (reassigned user held).find? WorkItem.assigneeField)
    (hnext : 0 ≤ nextVersion r.version)
    (hdepth : (Json.ofRecord (reassigned user held)).depth ≤ Stored.depthLimit) :
    ∃ w s', (writeRow now t r (reassigned user held)).runOn s = (.ok w, s') ∧
      Reassigns s id r held user now w s' := by
  refine ⟨_, _, writeRow_runOn_eq_ok.2 ⟨_, wire, hnext, storedText_eq_ok.2 ⟨hdepth, rfl⟩, hwire,
    rfl, rfl⟩, rfl, nextVersion_eq hnext, name_of_findType h.type, ?_, fun before hbefore => ?_, ?_⟩
  · rw [hassignee, find?_reassigned_self]
  · obtain ⟨-, k, q, u, hkey, hq, hu, hshow⟩ := loadItem_runOn_eq_ok.1 hbefore
    obtain rfl : r.id = k := Option.some.inj (h.key.symm.trans hkey)
    obtain rfl : r = q := by simpa [hlive] using hq
    obtain rfl : t = u := by simpa [h.type] using hu
    obtain ⟨held', hread, hshow⟩ := bind_eq_ok.1 hshow
    obtain rfl : held = held' := by simpa [h.read] using hread
    obtain ⟨shown, hshown, hshow⟩ := bind_eq_ok.1 hshow
    cases hshow
    exact eq_reassigned_of_toWire hwire hassignee hshown
  · rw [nextVersion_eq hnext, name_of_findType h.type]

/-! ## Every way to end -/

/-- What an assignment answers, and the store after it, in the order in which it is decided. -/
structure Decides (s : Store) (now : Int) (id version : String) (assignee : Option String)
    (answer : Except Error WorkItem × Store) : Prop where
  absent : (¬ ∃ r, Names s id r) → answer = (.error (.notFound .workItem id), s)
  stale : ∀ r, Names s id r → version ≠ String.ofList (Json.intChars r.version) →
    answer = (.error (.versionConflict .workItem id version r.version), s)
  readable : ∀ r, Current s id version r →
    ItemRow.Unread s r ∨ ∃ t held, Opened s id version r t held
  unread : ∀ r, Current s id version r → ItemRow.Unread s r →
    ∃ reason, answer = (.error (.internal reason), s)
  malformed : ∀ r t held given fault, Opened s id version r t held → assignee = some given →
    Uuid.read (Text.trim given) = .error fault → answer =
      (.error (.badParameter "assignee" ("'" ++ given ++ "' is not a UUID: " ++ fault.message)), s)
  unknown : ∀ r t held given u, Opened s id version r t held → assignee = some given →
    Uuid.read (Text.trim given) = .ok u → identityExists u s = false →
      answer = (.error (.notFound .identity u.text), s)
  hidden : ∀ r t held user e, Opened s id version r t held → Asks s assignee user →
    t.fields.toWire (reassigned user held) = .error e → answer = (.error e, s)
  refused : ∀ r t held user wire e, Opened s id version r t held → Asks s assignee user →
    t.fields.toWire (reassigned user held) = .ok wire → t.fields.toStorage wire = .error e →
      answer = (.error e, s)
  last : ∀ r t held user wire stored, Opened s id version r t held → Asks s assignee user →
    t.fields.toWire (reassigned user held) = .ok wire → t.fields.toStorage wire = .ok stored →
      r.version = 9223372036854775807 → ∃ reason, answer = (.error (.internal reason), s)
  done : ∀ r t held user wire stored, Opened s id version r t held → Asks s assignee user →
    t.fields.toWire (reassigned user held) = .ok wire → t.fields.toStorage wire = .ok stored →
      r.version ≠ 9223372036854775807 →
        ∃ w s', answer = (.ok w, s') ∧ Reassigns s id r held user now w s'

theorem internal_of_faults {α : Type} {a : Action α} (hguarded : Guarded a) (h : Faults a s) :
    ∃ reason, a.runOn s = (.error (.internal reason), s) := by
  obtain ⟨reason, hreason⟩ := h
  rcases hrun : a.runOn s with ⟨answer, s'⟩
  rw [hrun] at hreason
  obtain rfl : answer = .error (.internal reason) := hreason
  exact ⟨reason, by rw [hguarded s _ s' hrun]⟩

theorem guarded_assignItem : Guarded (assignItem .own now id version assignee) :=
  (readOnly_itemIdOf id).guarded_bind fun _ => guarded_transaction_own _

/-- **Every way in which an assignment can end.** After every run, the assignment of an item ends
as the first of the conditions says that does not hold: a live row that the text names, at its
version, which can be read; a UUID, of an identity that is there; a conversion to what is shown and
back; a next version. If all of them hold, it succeeds. -/
theorem assignItem_decides {ops : List Operation} (hops : ∀ op ∈ ops, op.WellFormed)
    (hs : (run ops empty).2 = s) (now : Int) (id version : String) (assignee : Option String) :
    Decides s now id version assignee ((assignItem .own now id version assignee).runOn s) := by
  subst hs
  have hintact := Intact.run hops
  have hlive {r : ItemRow} (h : Names (run ops empty).2 id r) :=
    h.findLive (numbered_empty.run ops) (hintact.readable r h.row)
  have hunread {r : ItemRow} (h : Names (run ops empty).2 id r) :=
    faulty_readFields (hintact.kept r h.row)
  constructor
  case absent => exact runOn_assignItem_absent
  case stale => exact fun r h => runOn_assignItem_stale h (hlive h)
  case readable =>
    intro r h
    obtain ⟨t, before, hkept⟩ := hintact.kept r h.row
    by_cases hread : ∃ held, ItemRow.readFields r = .ok held
    · obtain ⟨held, hheld⟩ := hread
      exact .inr ⟨t, held, h, hkept.1, hheld⟩
    · refine .inl ((hunread h.toNames).1 ?_)
      rw [ItemRow.readFields, faulty_mapError fun e => ⟨_, rfl⟩]
      simpa only [ItemRow.readFields, mapError_eq_ok] using hread
  case unread =>
    intro r h hunread
    refine internal_of_faults guarded_assignItem ((faults_assignItem hintact).2 ?_)
    exact ⟨r.id, r, h.key, hlive h.toNames, h.version, .inl hunread⟩
  case malformed =>
    rintro r t held given fault h rfl hfault
    rw [runOn_assignItem h (hlive h.toNames), assigned, hfault]
    rfl
  case unknown =>
    rintro r t held given u h rfl hread hunknown
    rw [runOn_assignItem h (hlive h.toNames), assigned, hread]
    simp only [get_bind_runOn, hunknown, Bool.false_eq_true, if_false]
    rfl
  case hidden =>
    intro r t held user e h hasks hwire
    rw [runOn_assignItem h (hlive h.toNames), hasks.runOn_assigned]
    simp only [hwire]
  case refused =>
    intro r t held user wire e h hasks hwire hstored
    rw [runOn_assignItem h (hlive h.toNames), hasks.runOn_assigned]
    simp only [hwire, hstored]
  case last =>
    intro r t held user wire stored h hasks hwire hstored hlast
    refine internal_of_faults guarded_assignItem ((faults_assignItem hintact).2 ?_)
    exact ⟨r.id, r, h.key, hlive h.toNames, h.version, .inr ⟨hlast, held, _, t, wire, stored,
      h.read, hasks.runOn_assigned held, h.type, hwire, hstored⟩⟩
  case done =>
    intro r t held user wire stored h hasks hwire hstored hnext
    have hnonneg := (nextVersion_nonneg_iff (hintact.nonneg r h.row)).2 hnext
    obtain ⟨t', before, hconverted⟩ := AllConverted.run hops r h.row
    obtain rfl : t = t' := by simpa [h.type] using hconverted.1.1
    have hdepth := depth_of_assigned ⟨t, before, hconverted.1⟩ h.read
      (hasks.runOn_assigned held) hwire hstored
    obtain ⟨rfl, hassignee⟩ := toStorage_reassigned h hconverted hwire hstored
    obtain ⟨w, s', hwrite, hdone⟩ := reassigns_of_writeRow now h (hlive h.toNames) hwire
      hassignee hnonneg hdepth
    refine ⟨w, s', ?_, hdone⟩
    rw [runOn_assignItem h (hlive h.toNames), hasks.runOn_assigned]
    simp only [hwire, hstored]
    exact transaction_runOn_eq_ok.2 hwrite

/-! ## One item of a plain type -/

/-- A type without fields of its own. -/
def plainType : ItemType := ⟨"t", 1, .empty⟩

/-- The row of a first item of that type. -/
def plainRow (stored : Record Json) : ItemRow :=
  ⟨1, "t", 0, (Json.ofRecord stored).text, false, 0, 0, none⟩

/-- The store has that type and that item alone. -/
structure HasPlain (s : Store) (stored : Record Json) : Prop where
  types : s.types = [⟨"t", 1, none, FieldSet.text .empty⟩]
  items : s.items = [plainRow stored]

namespace HasPlain

variable (h : HasPlain s stored)

include h

theorem current : Current s "1" "0" (plainRow stored) where
  key := by
    show itemId? "1" = some 1
    decide +kernel
  row := by
    rw [h.items]
    exact List.mem_singleton_self _
  live := rfl
  version := by
    show "0" = String.ofList (Json.intChars 0)
    decide +kernel

theorem findType : findType "t" s = .ok (some plainType) := by
  have hrow : s.types.find? (·.name = "t") = some ⟨"t", 1, none, FieldSet.text .empty⟩ := by
    rw [h.types]
    rfl
  have hfields : FieldSet.ofText (FieldSet.text .empty) = .ok .empty :=
    FieldSet.ofText_text_eq_ok_self.2 ⟨fun _ _ hd => (nomatch hd), fun _ _ hd => (nomatch hd)⟩
  exact (findType_eq_ok_of_row hrow).2 ((read_eq_ok rfl).2 ⟨hfields, rfl, rfl⟩)

theorem kept (hstored : stored.WellFormed) : ItemRow.Kept s (plainRow stored) plainType stored :=
  ⟨h.findType, rfl, hstored, fun _ _ hd => (nomatch hd)⟩

end HasPlain

/-! ## An assignment -/

def ann : Uuid := ⟨13, by decide⟩

/-- An identity, and an item. -/
def annRun : List Operation :=
  [.createType none "t" .empty, .createIdentity ann "Ann" none, .createItem 0 "t" .empty "u"]

theorem wellFormed_annRun : ∀ op ∈ annRun, op.WellFormed := by
  intro op hop
  rcases List.mem_cons.1 hop with rfl | hop
  · trivial
  rcases List.mem_cons.1 hop with rfl | hop
  · trivial
  obtain rfl := List.mem_singleton.1 hop
  exact Record.wellFormed_empty

def annStored : Record Json := Record.empty.insert WorkItem.creatorField (.str "u")

theorem hasPlain_annRun : HasPlain (run annRun empty).2 annStored where
  types := by decide +kernel
  items := by decide +kernel

theorem opened_annRun :
    Opened (run annRun empty).2 "1" "0" (plainRow annStored) plainType annStored := by
  have hstored : annStored.WellFormed :=
    Record.wellFormed_empty.insert _ (v := .str "u") trivial
  have hrereads : annStored.Rereads annStored := by
    rw [Record.Rereads]
    rfl
  exact ⟨hasPlain_annRun.current, hasPlain_annRun.findType,
    (readFields_eq_ok (hasPlain_annRun.kept hstored)).2 ⟨by decide, hrereads⟩⟩

/-- The item is assigned, under a spelling of the identity with blanks and a capital letter. -/
theorem assignItem_decides_annRun : ∃ w s',
    (assignItem .own 1 "1" "0" (some " 0000000000000000000000000000000D ")).runOn
      (run annRun empty).2 = (.ok w, s') ∧ w.version = 1 ∧
        w.fields.find? WorkItem.assigneeField =
          some (.str "00000000-0000-0000-0000-00000000000d") := by
  have hdecides := assignItem_decides wellFormed_annRun rfl 1 "1" "0"
    (some " 0000000000000000000000000000000D ")
  have hasks : Asks (run annRun empty).2 (some " 0000000000000000000000000000000D ") (some ann) :=
    .identity (by rfl) (by decide +kernel)
  have hconvert (x : Record Json) (dir : Direction) : plainType.fields.convert dir x = .ok x :=
    FieldSet.convert_eq_ok_iff_gives.2 ⟨fun _ _ hd => (nomatch hd), fun _ _ => rfl⟩
  obtain ⟨w, s', hdone, hreassigns⟩ := hdecides.done _ _ _ _ _ _ opened_annRun hasks
    (hconvert _ _) (hconvert _ _) (by decide)
  refine ⟨w, s', hdone, hreassigns.version, ?_⟩
  rw [hreassigns.assignee]
  decide +kernel

/-! ## The gap -/

/-- An item is made whose values nest deeper than they are read. -/
def sunkRun : List Operation := deepRun ++ [deepItem]

theorem wellFormed_sunkRun : ∀ op ∈ sunkRun, op.WellFormed :=
  List.forall_mem_append.2 ⟨wellFormed_deepRun, List.forall_mem_singleton.2 wellFormed_deepItem⟩

def sunkStored : Record Json :=
  (Record.empty.insert "x" (nested 127)).insert WorkItem.creatorField (.str "u")

set_option maxRecDepth 8000 in
theorem hasPlain_sunkRun : HasPlain (run sunkRun empty).2 sunkStored where
  types := by decide +kernel
  items := rfl

theorem unread_sunkRun : ItemRow.Unread (run sunkRun empty).2 (plainRow sunkStored) := by
  have hstored : sunkStored.WellFormed :=
    (Record.wellFormed_empty.insert "x" (wellFormed_nested 127)).insert _ (v := .str "u") trivial
  exact ⟨plainType, sunkStored, hasPlain_sunkRun.kept hstored, .inl (by decide +kernel)⟩

/-- Not every assignment to a text that is no UUID is refused as that. -/
theorem exists_assignment_misreported : ¬ ∀ ops : List Operation, (∀ op ∈ ops, op.WellFormed) →
    ∀ (id version given : String) (fault : Uuid.ReadFault) (r : ItemRow),
      Current (run ops empty).2 id version r → Uuid.read (Text.trim given) = .error fault →
        ∃ reason, ((assignItem .own 1 id version (some given)).runOn (run ops empty).2).1 =
          .error (.badParameter "assignee" reason) := by
  intro h
  obtain ⟨fault, hfault⟩ : ∃ fault, Uuid.read (Text.trim "nobody") = .error fault := by
    have hread : (Uuid.read (Text.trim "nobody")).toBool = false := by decide +kernel
    cases hfault : Uuid.read (Text.trim "nobody") with
    | ok u =>
      rw [hfault] at hread
      cases hread
    | error fault => exact ⟨fault, rfl⟩
  have hcurrent := hasPlain_sunkRun.current
  obtain ⟨reason, hblamed⟩ :=
    h sunkRun wellFormed_sunkRun "1" "0" "nobody" fault _ hcurrent hfault
  have hintact := Intact.run wellFormed_sunkRun
  have hlive := hcurrent.toNames.findLive (numbered_empty.run sunkRun) rfl
  have hfaults : Faults (assignItem .own 1 "1" "0" (some "nobody")) (run sunkRun empty).2 :=
    (faults_assignItem hintact).2
      ⟨1, _, hcurrent.key, hlive, hcurrent.version, .inl unread_sunkRun⟩
  rw [Faults, hblamed] at hfaults
  simp at hfaults

end Backlog.Store
