import Backlog.Proofs.Store.ItemCauses

/-!
# Which operations fail for reasons of the store

**Main statement (`run_internal_iff`).** After a run from the empty store, an operation fails for a
reason of the store exactly if one of the causes of `Operation.Fault` is there. Every other failure
names what the caller did.

**The gap** (`exists_internal`): the causes come from what callers give. An iteration may be given
an empty name, for one, where it is saved.

**Sizes.** A store has its limits, and a text can outgrow them anywhere. Everything that is given or
written has to stay far below them here (`Sized`). Statements of lists do not: a caller's filter
makes them as long and as deep as it is itself, and that is one of the causes.
-/

namespace Backlog.Store

open Store.Action

/-! ## Sizes -/

/-- How many bytes a text may have, well below what a store takes and what it can work with. -/
def sizeLimit : Nat := 100000000

/-- The texts of all rows. -/
def texts (s : Store) : List String :=
  s.types.flatMap (fun r => [r.name, r.fieldsText]) ++
    s.items.flatMap (fun r => [r.typeName, r.fieldsText]) ++
    s.identities.flatMap (fun r => r.fullName :: r.imageUrl.toList) ++
    s.iterations.flatMap (fun r => r.name :: r.description.toList)

def boundTexts (params : List Datum) : List String :=
  params.filterMap fun
    | .text t => some t
    | _ => none

namespace Operation

/-- The texts that an operation hands to the store as they are. -/
def texts : Operation → List String
  | createType extended name _ => name :: extended.toList
  | loadType name | createItem _ name _ _ => [name]
  | createIdentity _ fullName imageUrl => fullName :: imageUrl.toList
  | saveItem _ _ item => [item.typeName]
  | listItems filter _ _ => boundTexts (filter.toPredicate []).2
  | createIteration _ _ new | createChild _ _ _ new => new.name :: new.description.toList
  | saveIteration i => i.name :: i.description.toList
  | _ => []

/-- What an operation gives and what it leaves behind is small enough for a store, and there is
another id for an item. -/
structure Sized (s : Store) (op : Operation) : Prop where
  small : ∀ text ∈ op.texts ++ (op.run s).2.texts, text.utf8ByteSize ≤ sizeLimit
  room : s.lastItem < 9223372036854775807

end Operation

/-- So is everything in a run. -/
def Sized : Store → List Operation → Prop
  | _, [] => True
  | s, op :: ops => op.Sized s ∧ Sized (op.run s).2 ops

theorem Sized.of_append {op : Operation} {ops : List Operation} {s : Store}
    (h : Sized s (ops ++ [op])) : op.Sized (run ops s).2 := by
  induction ops generalizing s with
  | nil => exact h.1
  | cons _ _ ih => exact ih h.2

/-- Texts of that size are among the values of lists without harm. -/
theorem forM_checkValue {params : List Datum}
    (h : ∀ text ∈ boundTexts params, text.utf8ByteSize ≤ sizeLimit) :
    params.forM Predicate.checkValue = .ok () := by
  induction params with
  | nil => rfl
  | cons d params ih =>
    have hrest : params.forM Predicate.checkValue = .ok () := ih fun text htext => h text <| by
      obtain ⟨d, hd, heq⟩ := List.mem_filterMap.1 htext
      exact List.mem_filterMap.2 ⟨d, List.mem_cons_of_mem _ hd, heq⟩
    have hfirst : Predicate.checkValue d = .ok () := by
      cases d with
      | text t =>
        have ht : t.utf8ByteSize ≤ sizeLimit :=
          h t (List.mem_filterMap.2 ⟨.text t, List.mem_cons_self, rfl⟩)
        exact if_pos (Nat.le_trans ht (by decide))
      | null | int | real => rfl
    rw [List.forM, hfirst, ok_bind, hrest]

theorem checkList_eq_ok {p : Predicate} {params : List Datum} {offset limit : Option Nat}
    (h : ∀ text ∈ boundTexts params, text.utf8ByteSize ≤ sizeLimit) :
    p.checkList params offset limit = .ok () ↔ p.checkStatement offset limit = .ok () := by
  rw [Predicate.checkList]
  cases p.checkStatement offset limit with
  | error reason => simp
  | ok => simp [forM_checkValue h]

/-! ## Causes -/

namespace Operation

/-- The operation reads the row of an iteration. -/
def ReadsRow (r : IterationRow) : Operation → Prop
  | createChild _ _ parent _ => r.id = parent.text
  | loadIteration id | moveIteration id _ => r.id = id.text
  | saveIteration i => r.id = i.id.text
  | listIterations space => r.space = space.text
  | _ => False

/-- What makes an operation fail for a reason of the store. -/
inductive Fault (s : Store) : Operation → Prop
  /-- Types are listed from or up to a number that does not fit. -/
  | typeBounds {offset limit : Option Nat} (unfit : ¬ Fits offset limit) :
    Fault s (.listTypes offset limit)
  /-- The name begins with a NUL, or the id is taken. -/
  | identity {id : Uuid} {fullName : String} {imageUrl : Option String}
    (unwritable : BeginsWithNul fullName ∨
      (Text.trim fullName).isEmpty = false ∧ ∃ r ∈ s.identities, r.id = id.text) :
    Fault s (.createIdentity id fullName imageUrl)
  /-- The values of a new item nest too deep. -/
  | newItem {now : Int} {typeName creator : String} {fields stored : Record Json} {t : ItemType}
    (typed : (Text.trim typeName).isEmpty = false) (created : (Text.trim creator).isEmpty = false)
    (type : findType typeName s = .ok (some t))
    (storage : t.fields.toStorage (fields.insert WorkItem.creatorField (.str creator)) = .ok stored)
    (deep : Stored.depthLimit <
      (Json.ofRecord (fields.insert WorkItem.creatorField (.str creator))).depth) :
    Fault s (.createItem now typeName fields creator)
  /-- What was written cannot be read back. -/
  | unread {given : String} {k : Nat} {r : ItemRow} (id : itemId? given = some k)
    (live : findLive k s = .ok (some r)) (unread : ItemRow.Unread s r) : Fault s (.loadItem given)
  /-- There is no next version, or the values of a changed item nest too deep. -/
  | save {now : Int} {checked : Bool} {item : WorkItem} {k : Nat} {r : ItemRow} {t : ItemType}
    {stored : Record Json} (id : itemId? item.id = some k) (live : findLive k s = .ok (some r))
    (seen : checked = true → r.version = item.version)
    (type : findType item.typeName s = .ok (some t))
    (storage : t.fields.toStorage item.fields = .ok stored)
    (unwritable : r.version = 9223372036854775807 ∨
      Stored.depthLimit < (Json.ofRecord item.fields).depth) :
    Fault s (.saveItem now checked item)
  /-- What was written cannot be read back to change its assignee. -/
  | unreadAssign {now : Int} {given version : String} {assignee : Option String} {k : Nat}
    {r : ItemRow} (id : itemId? given = some k) (live : findLive k s = .ok (some r))
    (seen : version = String.ofList (Json.intChars r.version)) (unread : ItemRow.Unread s r) :
    Fault s (.assignItem now given version assignee)
  /-- There is no next version of an item whose assignee could be changed. -/
  | lastAssign {now : Int} {given version : String} {assignee : Option String} {k : Nat}
    {r : ItemRow} {t : ItemType} {held edited wire stored : Record Json}
    (id : itemId? given = some k) (live : findLive k s = .ok (some r))
    (seen : version = String.ofList (Json.intChars r.version))
    (last : r.version = 9223372036854775807) (read : ItemRow.readFields r = .ok held)
    (assigned : (assigned held assignee).runOn s = (.ok edited, s))
    (type : findType r.typeName s = .ok (some t)) (before : t.fields.toWire edited = .ok wire)
    (storage : t.fields.toStorage wire = .ok stored) :
    Fault s (.assignItem now given version assignee)
  /-- A list needs a statement that is too long or too deep, or has too many places. -/
  | oversized {f : Filter} {offset limit : Option Nat} {p : Predicate} {params : List Datum}
    {reason : String} (compiled : f.toPredicate [] = (.ok p, params))
    (refused : p.checkStatement offset limit = .error reason) : Fault s (.listItems f offset limit)
  /-- A live item cannot be decided on, for a field whose name holds a NUL. -/
  | undecided {f : Filter} {offset limit : Option Nat} {p : Predicate} {params : List Datum}
    {field : String} {r : ItemRow} (compiled : f.toPredicate [] = (.ok p, params))
    (named : field ∈ f.fields) (cut : HoldsNul field) (live : r ∈ liveItems s)
    (undecided : ¬ ∃ b, selects p params r = .ok b) : Fault s (.listItems f offset limit)
  /-- Items are listed from or up to a number that does not fit. -/
  | itemBounds {f : Filter} {offset limit : Option Nat} {p : Predicate} {params : List Datum}
    (compiled : f.toPredicate [] = (.ok p, params)) (unfit : ¬ Fits offset limit) :
    Fault s (.listItems f offset limit)
  /-- What was written cannot be read back, and everything listed before it can be shown. -/
  | unreadListed {f : Filter} {offset limit : Option Nat} {p : Predicate} {params : List Datum}
    {rows before after : List ItemRow} {r : ItemRow} (compiled : f.toPredicate [] = (.ok p, params))
    (selected : selected p params (liveItems s) = .ok rows)
    (listed : cut offset limit rows = before ++ r :: after)
    (shown : ∀ q ∈ before, ∃ w, showListed s q = .ok w) (unread : ItemRow.Unread s r) :
    Fault s (.listItems f offset limit)
  /-- A moment of an iteration that is read has become one beyond the calendar. -/
  | moment {op : Operation} {r : IterationRow} (row : r ∈ s.iterations) (reads : op.ReadsRow r)
    (beyond : IterationRow.BeyondCalendar r) : Fault s op
  /-- The name of a new iteration begins with a NUL, or its id is taken. -/
  | newIteration {id : Uuid} {now : Int} {new : NewIteration} (unwritable : Unwritable s id new) :
    Fault s (.createIteration id now new)
  /-- The same under a parent that is there. -/
  | newChild {id : Uuid} {now : Int} {parent : Uuid} {new : NewIteration} {above : Iteration}
    (named : findIteration parent s = .ok (some above)) (unwritable : Unwritable s id new) :
    Fault s (.createChild id now parent new)
  /-- An iteration is saved with a name of spaces or of none, or with one that begins with a NUL. -/
  | unnamed {i held : Iteration} (found : findIteration i.id s = .ok (some held))
    (unnamed : hasContent i.name = false) : Fault s (.saveIteration i)
  /-- An iteration is saved with a parent that is not there, and no other one is in its way. -/
  | orphan {i held : Iteration} (found : findIteration i.id s = .ok (some held))
    (free : ¬ (i.state = .start ∧ otherStarted i.id.text i.spaceId.text s = true))
    (orphan : hasParent i s = false) : Fault s (.saveIteration i)

end Operation

/-! ## Completeness -/

namespace Operation

variable {s : Store} {op : Operation}

/-- An operation fails so exactly for one of the causes. -/
theorem faults_action_iff (h : Intact s) (hsized : op.Sized s) :
    Faults (op.action .own) s ↔ op.Fault s := by
  cases op with
  | seedTypes | createType | loadType | loadIdentity | identityExists | listIdentities | deleteItem
  | itemCounts | canStart =>
    refine iff_of_false ?_ fun hfault => ?_
    · simp [action, Store.loadType, not_faults_seedTypes, not_faults_createType,
        not_faults_typeNamed, not_faults_loadIdentity h.identified,
        not_faults_listIdentities h.identified,
        not_faults_deleteItem, not_faults_itemCounts h.hold, not_faults_canStart]
    · cases hfault with
      | moment _ reads _ => exact reads
  | listTypes offset limit =>
    rw [action, faults_map, faults_listTypes]
    refine ⟨.typeBounds, fun hfault => ?_⟩
    cases hfault with
    | typeBounds unfit => exact unfit
    | moment _ reads _ => exact reads.elim
  | createIdentity id fullName imageUrl =>
    rw [action, faults_map, faults_createIdentity]
    refine ⟨.identity, fun hfault => ?_⟩
    cases hfault with
    | identity unwritable => exact unwritable
    | moment _ reads _ => exact reads.elim
  | createItem now typeName fields creator =>
    rw [action, faults_map, faults_createItem]
    constructor
    · rintro ⟨typed, created, t, stored, type, storage, deep⟩
      exact .newItem typed created type storage deep
    · intro hfault
      cases hfault with
      | newItem typed created type storage deep =>
        exact ⟨typed, created, _, _, type, storage, deep⟩
      | moment _ reads _ => exact reads.elim
  | loadItem id =>
    rw [action, faults_map, faults_loadItem h]
    constructor
    · rintro ⟨k, r, id, live, unread⟩
      exact .unread id live unread
    · intro hfault
      cases hfault with
      | unread id live unread => exact ⟨_, _, id, live, unread⟩
      | moment _ reads _ => exact reads.elim
  | saveItem now checked item =>
    rw [action, faults_map, faults_saveItem h]
    constructor
    · rintro ⟨k, r, t, stored, id, live, seen, type, storage, unwritable⟩
      exact .save id live seen type storage unwritable
    · intro hfault
      cases hfault with
      | save id live seen type storage unwritable =>
        exact ⟨_, _, _, _, id, live, seen, type, storage, unwritable⟩
      | moment _ reads _ => exact reads.elim
  | assignItem now id version assignee =>
    rw [action, faults_map, faults_assignItem h]
    constructor
    · rintro ⟨k, r, id, live, seen, unread | ⟨last, held, edited, t, wire, stored, read, assigned,
        type, before, storage⟩⟩
      · exact .unreadAssign id live seen unread
      · exact .lastAssign id live seen last read assigned type before storage
    · intro hfault
      cases hfault with
      | unreadAssign id live seen unread => exact ⟨_, _, id, live, seen, .inl unread⟩
      | lastAssign id live seen last read assigned type before storage =>
        exact ⟨_, _, id, live, seen, .inr
          ⟨last, _, _, _, _, _, read, assigned, type, before, storage⟩⟩
      | moment _ reads _ => exact reads.elim
  | listItems f offset limit =>
    rw [action, faults_map, faults_listWithin, faults_listItems h]
    have hcheck {p : Predicate} {params : List Datum}
        (compiled : f.toPredicate [] = (.ok p, params)) :
        p.checkList params offset limit = .ok () ↔ p.checkStatement offset limit = .ok () :=
      checkList_eq_ok fun text htext => hsized.small text <| by
        rw [texts, compiled]
        exact List.mem_append_left _ htext
    constructor
    · rintro (⟨p, params, compiled, refused⟩ | ⟨p, params, compiled, ⟨r, live, undecided⟩ | unfit |
        ⟨rows, selected, before, r, after, listed, shown, unread⟩⟩)
      · cases hstatement : p.checkStatement offset limit with
        | error reason => exact .oversized compiled hstatement
        | ok => exact absurd ((hcheck compiled).2 hstatement) refused
      · obtain ⟨field, named, cut⟩ := exists_holdsNul compiled undecided
        exact .undecided compiled named cut live undecided
      · exact .itemBounds compiled unfit
      · exact .unreadListed compiled selected listed shown unread
    · intro hfault
      cases hfault with
      | oversized compiled refused =>
        refine .inl ⟨_, _, compiled, fun hlist => ?_⟩
        rw [(hcheck compiled).1 hlist] at refused
        cases refused
      | undecided compiled _ _ live undecided =>
        exact .inr ⟨_, _, compiled, .inl ⟨_, live, undecided⟩⟩
      | itemBounds compiled unfit => exact .inr ⟨_, _, compiled, .inr (.inl unfit)⟩
      | unreadListed compiled selected listed shown unread =>
        exact .inr ⟨_, _, compiled, .inr (.inr ⟨_, selected, _, _, _, listed, shown, unread⟩)⟩
      | moment _ reads _ => exact reads.elim
  | createIteration id now new =>
    rw [action, faults_map, faults_createIteration]
    refine ⟨.newIteration, fun hfault => ?_⟩
    cases hfault with
    | newIteration unwritable => exact unwritable
    | moment _ reads _ => exact reads.elim
  | createChild id now parent new =>
    rw [action, faults_map, faults_createChild h.hold h.distinct]
    constructor
    · rintro (⟨r, row, reads, beyond⟩ | ⟨⟨above, named⟩, unwritable⟩)
      · exact .moment row reads beyond
      · exact .newChild named unwritable
    · intro hfault
      cases hfault with
      | moment row reads beyond => exact .inl ⟨_, row, reads, beyond⟩
      | newChild named unwritable => exact .inr ⟨⟨_, named⟩, unwritable⟩
  | loadIteration id =>
    rw [action, faults_map, Store.loadIteration, faults_iterationNamed h.hold h.distinct]
    constructor
    · rintro ⟨r, row, reads, beyond⟩
      exact .moment row reads beyond
    · intro hfault
      cases hfault with
      | moment row reads beyond => exact ⟨_, row, reads, beyond⟩
  | listIterations space =>
    rw [action, faults_map, faults_listIterations h.hold]
    constructor
    · rintro ⟨r, row, reads, beyond⟩
      exact .moment row reads beyond
    · intro hfault
      cases hfault with
      | moment row reads beyond => exact ⟨_, row, reads, beyond⟩
  | saveIteration i =>
    rw [action, faults_map, faults_saveIteration h.hold h.distinct, faulty_checkIteration]
    constructor
    · rintro (⟨r, row, reads, beyond⟩ | ⟨⟨held, found⟩, unnamed | ⟨free, orphan⟩⟩)
      · exact .moment row reads beyond
      · exact .unnamed found unnamed
      · exact .orphan found free orphan
    · intro hfault
      cases hfault with
      | moment row reads beyond => exact .inl ⟨_, row, reads, beyond⟩
      | unnamed found unnamed => exact .inr ⟨⟨_, found⟩, .inl unnamed⟩
      | orphan found free orphan => exact .inr ⟨⟨_, found⟩, .inr ⟨free, orphan⟩⟩
  | moveIteration id state =>
    rw [action, faults_map, faults_moveIteration h.hold h.distinct]
    constructor
    · rintro ⟨r, row, reads, beyond⟩
      exact .moment row reads beyond
    · intro hfault
      cases hfault with
      | moment row reads beyond => exact ⟨_, row, reads, beyond⟩

end Operation

/-- **Failures of the store have one of the known causes, and those always lead to them.** -/
theorem run_internal_iff {ops : List Operation} (hops : ∀ op ∈ ops, op.WellFormed)
    (op : Operation) (hsized : Sized empty (ops ++ [op])) :
    (∃ reason, (op.run (run ops empty).2).1 = .error (.internal reason)) ↔
      op.Fault (run ops empty).2 :=
  Operation.faults_action_iff (.run hops) hsized.of_append

/-- A caller who nests a filter deep enough has the list fail. -/
example (s : Store) : (Operation.listItems (Nat.repeat .not 50 .all) none none).Fault s := by
  have hdeep : (Nat.repeat Predicate.not 50 (.constant true)).checkStatement none none =
      .error "parser stack overflow" := by decide +kernel
  exact .oversized rfl hdeep

/-! ## The gap -/

/-- An iteration of the space of all zeros. -/
def named (name : String) : Iteration :=
  { id := ⟨1, by decide⟩, spaceId := default, name := name, state := .new }

/-- An iteration is made. -/
def namedRun : List Operation :=
  [.createIteration ⟨1, by decide⟩ 0 { spaceId := default, name := "a" }]

theorem wellFormed_namedRun : ∀ op ∈ namedRun, op.WellFormed := by
  intro op hop
  obtain rfl := List.mem_singleton.1 hop
  trivial

theorem findIteration_namedRun :
    findIteration (named "").id (run namedRun empty).2 = .ok (some (named "a")) := by
  rfl

theorem fault_unnamed :
    (Operation.saveIteration (named "")).Fault (run namedRun empty).2 :=
  .unnamed findIteration_namedRun rfl

theorem sized_unnamed : Sized empty (namedRun ++ [.saveIteration (named "")]) :=
  ⟨⟨by decide +kernel, by decide⟩, ⟨by decide +kernel, by decide⟩, trivial⟩

/-- The iteration is saved without a name, which the store refuses. -/
theorem run_internal_iff_unnamed :
    (Operation.saveIteration (named "")).Fault (run namedRun empty).2 ∧
      ∃ reason, ((Operation.saveIteration (named "")).run (run namedRun empty).2).1 =
        .error (.internal reason) :=
  ⟨fault_unnamed, (run_internal_iff wellFormed_namedRun _ sized_unnamed).2 fault_unnamed⟩

/-- Not only the store is to blame where it fails. -/
theorem exists_internal : ¬ ∀ ops : List Operation, (∀ op ∈ ops, op.WellFormed) →
    ∀ op : Operation, op.WellFormed → ∀ reason,
      (op.run (run ops empty).2).1 ≠ .error (.internal reason) := by
  intro h
  obtain ⟨reason, hreason⟩ :=
    (Operation.faults_action_iff (.run wellFormed_namedRun) sized_unnamed.of_append).2 fault_unnamed
  exact h namedRun wellFormed_namedRun (.saveIteration (named "")) trivial reason hreason

end Backlog.Store
