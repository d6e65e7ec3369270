import Backlog.Proofs.Field.Depth
import Backlog.Proofs.Store.Lists
import Backlog.Proofs.Store.Resave
import Backlog.Proofs.Store.Written

/-!
# Why operations on types, identities and iterations fail for reasons of the store

Conversions and the compilation of filters always name what is wrong. The store itself refuses
bounds of 64 bits without a sign, names that begin with a NUL, ids that are taken and parents that
are not there, and it fails to read moments that have come to lie beyond the calendar.

Every lemma says exactly when an operation fails so, or that it never does.
-/

namespace Backlog

/-! ## Conversions and filters never do -/

theorem FieldSet.not_faulty_convert (fs : FieldSet) (dir : Direction) (input : Record Json) :
    ¬ Faulty (fs.convert dir input) := by
  have hfield (d : FieldDefinition) (name : String) (value : Option Json) :
      ¬ Faulty (d.convert dir name value) := by
    rw [FieldDefinition.convert.eq_def]
    split
    · split <;> simp
    · split <;> simp
    next v _ => cases h : d.type.convert dir v <;> simp [Except.mapError]
  have hdeclared (ds : List (String × FieldDefinition)) :
      ¬ Faulty (convertDeclared dir input ds) := by
    induction ds with
    | nil => exact not_faulty_ok _
    | cons e ds ih =>
      rw [convertDeclared, faulty_bind]
      rintro (h | ⟨v, -, h⟩)
      · exact hfield _ _ _ h
      · rcases faulty_bind.1 h with h | ⟨vs, -, h⟩
        · exact ih h
        · exact not_faulty_ok _ h
  rw [convert, faulty_bind]
  rintro (h | ⟨vs, -, h⟩)
  · exact hdeclared _ h
  · exact not_faulty_ok _ h

namespace Filter

/-- Nothing that is refused is a failure of the store. -/
def Blames {α : Type} (x : Binder α) : Prop := ∀ before, ¬ Faulty (x.run.run before).1

theorem blames_bind {α β : Type} {x : Binder α} {g : α → Binder β} (hx : Blames x)
    (hg : ∀ a, Blames (g a)) : Blames (x >>= g) := by
  intro before
  have hfirst := hx before
  simp only [ExceptT.run_bind, StateT.run_bind]
  rcases hrun : x.run.run before with ⟨e | a, mid⟩
  · rw [hrun, faulty_error] at hfirst
    exact faulty_error.not.2 hfirst
  · exact hg a mid

theorem blames_pure {α : Type} (a : α) : Blames (pure a) := fun _ => not_faulty_ok a

theorem blames_place (d : Datum) : Blames (bind d) := fun _ => not_faulty_ok _

theorem blames_bindField (field : String) : Blames (bindField field) := by
  rw [bindField]
  split
  · intro before
    show ¬ Faulty (.error (.badParameter _ _))
    simp
  · exact blames_place _

theorem not_faulty_literal (field : String) (value : Json) : ¬ Faulty (literal field value) := by
  cases value with
  | int n =>
    rw [literal]
    split
    · simp
    · split <;> simp
  | _ => simp [literal]

mutual

theorem blames_compile (f : Filter) : Blames (compile f) := by
  match f with
  | all | and [] | or [] => exact blames_pure _
  | isNull field => exact blames_bind (blames_bindField field) fun _ => blames_pure _
  | compare field op value =>
    rw [compile]
    refine blames_bind (blames_bindField field) fun path => ?_
    split
    · exact blames_pure _
    · exact blames_pure _
    · refine blames_bind (fun before => ?_) fun d => blames_bind (blames_place d) fun _ =>
        blames_pure _
      exact not_faulty_literal field _
  | and (f :: fs) | or (f :: fs) =>
    rw [compile]
    exact blames_bind (blames_compileTerms (f :: fs)) fun _ => blames_pure _
  | not inner =>
    rw [compile]
    exact blames_bind (blames_compile inner) fun _ => blames_pure _

theorem blames_compileTerms (fs : List Filter) : Blames (compileTerms fs) := by
  match fs with
  | [] => exact blames_pure _
  | f :: fs =>
    rw [compileTerms]
    refine blames_bind (blames_compile f) fun p => ?_
    exact blames_bind (blames_compileTerms fs) fun _ => blames_pure _

end

end Filter

namespace Store

open Store.Action

variable {s : Store}

/-! ## Types -/

theorem not_faulty_readType (r : TypeRow) : ¬ Faulty (TypeRow.read r) := by
  rw [TypeRow.read.eq_def]
  split <;> simp

theorem not_faulty_findType (name : String) (s : Store) : ¬ Faulty (findType name s) := by
  rw [findType.eq_def]
  split
  · exact not_faulty_ok _
  · rw [faulty_map]
    exact not_faulty_readType _

theorem not_faults_typeNamed (name : String) (s : Store) : ¬ Faults (typeNamed name) s := by
  rw [typeNamed, faults_lookup (fun _ => rfl) rfl (by simp)]
  exact not_faulty_findType name s

theorem not_faults_createType (scope : Scope) (extended : Option String) (name : String)
    (own : FieldSet) (s : Store) : ¬ Faults (createType scope extended name own) s := by
  have hname : ¬ Faulty (ItemType.checkName name) := by
    rw [ItemType.checkName]
    split
    · simp
    · split <;> simp
  have hmerged (s : Store) : ¬ Faults (mergedFields extended own) s := by
    cases extended with
    | none => exact not_faults_pure _ _
    | some parent =>
      show ¬ Faults (typeNamed parent >>= fun t => pure (t.extendedFields own)) s
      simp [not_faults_typeNamed]
  rw [createType, faults_ofResult_bind]
  rintro (h | ⟨-, -, h⟩)
  · exact hname h
  rw [faults_transaction, faults_bind] at h
  rcases h with h | ⟨merged, t, -, h⟩
  · exact hmerged s h
  rw [faults_get_bind, faults_ofResult_bind] at h
  rcases h with h | ⟨found, -, h⟩
  · exact not_faulty_findType _ _ h
  cases found with
  | some existing =>
    simp only at h
    split at h <;> simp at h
  | none => simp [insertType, faults_statement] at h

theorem not_faults_createExtending (names : List String) (s : Store) :
    ¬ Faults (createExtending names) s := by
  induction names generalizing s with
  | nil => exact not_faults_pure _ _
  | cons name names ih =>
    rw [createExtending, faults_bind]
    rintro (h | ⟨t, s', -, h⟩)
    · exact not_faults_createType _ _ _ _ _ h
    · simp [ih] at h

theorem not_faults_seedTypes (scope : Scope) (s : Store) : ¬ Faults (seedTypes scope) s := by
  rw [seedTypes, faults_transaction, createBuiltin, faults_bind]
  rintro (h | ⟨t, s', -, h⟩)
  · exact not_faults_createType _ _ _ _ _ h
  · simp [not_faults_createExtending] at h

/-! ## Windows -/

/-- Both bounds of a window are numbers of 64 bits with a sign, but the offset of an empty one does
not count. -/
def Fits (offset limit : Option Nat) : Prop := InRange limit ∧ (limit = some 0 ∨ InRange offset)

theorem faulty_window {α : Type} {offset limit : Option Nat} {xs : List α} :
    Faulty (window offset limit xs) ↔ ¬ Fits offset limit := by
  have hbound (bound : Option Nat) : Faulty (checkBound bound) ↔ ¬ InRange bound := by
    cases bound with
    | none => simp [checkBound, InRange]
    | some n => by_cases h : n < 9223372036854775808 <;> simp [checkBound, InRange, h, windowFault]
  simp only [window, faulty_bind, hbound, checkBound_eq_ok, exists_const, Fits, not_and_or, not_or]
  by_cases hlimit : InRange limit
  · by_cases hzero : limit = some 0
    · simp [hzero]
    · simp [hlimit, hzero, hbound]
  · simp [hlimit]

theorem faults_listTypes {offset limit : Option Nat} :
    Faults (listTypes offset limit) s ↔ ¬ Fits offset limit := by
  rw [listTypes, faults_get_bind, faults_ofResult_bind, faulty_window]
  refine or_iff_left ?_
  rintro ⟨rows, -, h⟩
  exact not_faulty_mapM (fun r _ => not_faulty_readType r) (faults_ofResult.1 h)

/-! ## Names -/

/-- Behind its blanks the name begins with a NUL, and the store reads no further than to a NUL. -/
def BeginsWithNul (name : String) : Prop :=
  ∃ c rest, (Text.trim name).toList = c :: rest ∧ c.toNat = 0

theorem trim_isEmpty {name : String} :
    (Text.trim name).isEmpty = true ↔ (Text.trim name).toList = [] := by
  rw [String.isEmpty_iff, ← String.toList_eq_nil_iff]

/-- A trimmed name that is not empty has content for the store unless it begins with a NUL. -/
theorem beginsWithNul_iff {name : String} : BeginsWithNul name ↔
    (Text.trim name).isEmpty = false ∧ hasContent (Text.trim name) = false := by
  rw [← Bool.not_eq_true, trim_isEmpty]
  have hhead := Text.head_trim name
  unfold BeginsWithNul hasContent
  cases hname : (Text.trim name).toList with
  | nil => simp
  | cons c rest =>
    have hblank : Text.isBlank c = false := hhead c (by rw [hname]; rfl)
    have hspace : c ≠ ' ' := by
      rintro rfl
      cases hblank
    simp [hspace]

/-! ## Identities -/

theorem not_faults_loadIdentity (h : AllIdentified s) (id : Uuid) :
    ¬ Faults (loadIdentity id) s := by
  rw [loadIdentity, faults_get_bind]
  split
  next r hfind =>
    obtain ⟨who, hwho⟩ := exists_read_identity h (List.mem_of_find?_eq_some hfind)
    simp [hwho]
  · simp

theorem not_faults_listIdentities (h : AllIdentified s) : ¬ Faults listIdentities s := by
  rw [listIdentities, faults_get_bind, faults_ofResult]
  refine not_faulty_mapM fun r hr => ?_
  obtain ⟨who, hwho⟩ := exists_read_identity h (List.mem_mergeSort.1 hr)
  simp [hwho]

theorem faults_createIdentity {id : Uuid} {fullName : String} {imageUrl : Option String} :
    Faults (createIdentity id fullName imageUrl) s ↔ BeginsWithNul fullName ∨
      (Text.trim fullName).isEmpty = false ∧ ∃ r ∈ s.identities, r.id = id.text := by
  rw [beginsWithNul_iff, createIdentity]
  cases hempty : (Text.trim fullName).isEmpty with
  | true => simp
  | false =>
    have hinsert : Faults (insertIdentity ⟨id.text, Text.trim fullName, imageUrl⟩) s ↔
        hasContent (Text.trim fullName) = false ∨ ∃ r ∈ s.identities, r.id = id.text := by
      rw [insertIdentity, faults_statement]
      cases hasContent (Text.trim fullName) with
      | false => simp [checkFailed]
      | true =>
        by_cases htaken : ∃ r ∈ s.identities, r.id = id.text
        · simp [htaken, uniqueFailed]
        · simp [htaken]
    simp [hinsert]

/-! ## Iterations -/

section Iterations

variable {i : Iteration} {id : Uuid} {now : Int}

theorem faulty_checkIteration : Faulty (checkIteration i s) ↔ hasContent i.name = false ∨
    ¬ (i.state = .start ∧ otherStarted i.id.text i.spaceId.text s = true) ∧
      hasParent i s = false := by
  rw [checkIteration]
  cases hasContent i.name with
  | false => simp [checkFailed]
  | true =>
    by_cases hstart : i.state = .start ∧ otherStarted i.id.text i.spaceId.text s = true
    · simp [hstart, alreadyStarted]
    · cases hasParent i s <;> simp [hstart, foreignKeyFailed]

theorem faults_updateIteration :
    Faults (updateIteration i) s ↔ Faulty (checkIteration i s) := by
  rw [updateIteration, faults_statement, faulty_bind]
  simp

/-- A new iteration is not started, so nothing but its name and its parent can be wrong. -/
theorem faults_insertIteration (hstate : i.state ≠ .start) : Faults (insertIteration now i) s ↔
    hasContent i.name = false ∨ (∃ r ∈ s.iterations, r.id = i.id.text) ∨ hasParent i s = false := by
  rw [insertIteration, faults_statement]
  cases hname : hasContent i.name with
  | false => simp [faulty_bind, checkFailed]
  | true =>
    by_cases htaken : ∃ r ∈ s.iterations, r.id = i.id.text
    · simp [faulty_bind, htaken, uniqueFailed]
    · simp [htaken, faulty_checkIteration, hname, hstate]

theorem draft_eq_ok {space : Uuid} {parent : Option Uuid} {new : NewIteration} :
    draft id space parent new = .ok i ↔ (Text.trim new.name).isEmpty = false ∧ i =
      ⟨id, space, parent, Text.trim new.name, new.description, new.startAt, new.endAt, .new⟩ := by
  rw [draft]
  cases (Text.trim new.name).isEmpty <;> simp [eq_comm]

theorem not_faulty_draft (id space : Uuid) (parent : Option Uuid) (new : NewIteration) :
    ¬ Faulty (draft id space parent new) := by
  rw [draft]
  cases (Text.trim new.name).isEmpty <;> simp

/-- A new iteration cannot be written for its name or for its id. -/
def Unwritable (s : Store) (id : Uuid) (new : NewIteration) : Prop :=
  BeginsWithNul new.name ∨
    (Text.trim new.name).isEmpty = false ∧ ∃ r ∈ s.iterations, r.id = id.text

/-- Writing a draft under no parent, or under one that is there. -/
theorem faults_insert_draft {space : Uuid} {parent : Option Uuid} {new : NewIteration}
    (hparent : ∀ p, parent = some p → ∃ r ∈ s.iterations, r.id = p.text) :
    Faults (ofResult (draft id space parent new) >>= fun i =>
        insertIteration now i >>= fun _ => pure i) s ↔ Unwritable s id new := by
  rw [faults_ofResult_bind, or_iff_right (not_faulty_draft _ _ _ _), Unwritable, beginsWithNul_iff]
  cases hname : (Text.trim new.name).isEmpty with
  | true => simp [draft_eq_ok, hname]
  | false =>
    have hthere {i : Iteration} (hi : i.parentId = parent) : hasParent i s = true := by
      rw [hasParent, hi]
      cases parent with
      | none => rfl
      | some p => simpa using .inr (hparent p rfl)
    simp [draft_eq_ok, hname, faults_insertIteration, hthere]

theorem faults_createIteration {new : NewIteration} :
    Faults (createIteration id now new) s ↔ Unwritable s id new :=
  faults_insert_draft (by simp)

/-! ### Rows that are read -/

theorem faults_iterationNamed (h : AllHold s) (hdistinct : (s.iterations.map (·.id)).Nodup) :
    Faults (iterationNamed id) s ↔
      ∃ r ∈ s.iterations, r.id = id.text ∧ IterationRow.BeyondCalendar r := by
  rw [iterationNamed, faults_lookup (fun _ => rfl) rfl (by simp), faulty_findIteration h hdistinct]

/-- An action that starts from an iteration faults where reading that does, or later. -/
theorem faults_iterationNamed_bind {α : Type} {g : Iteration → Action α} (h : AllHold s)
    (hdistinct : (s.iterations.map (·.id)).Nodup) :
    Faults (iterationNamed id >>= g) s ↔
      (∃ r ∈ s.iterations, r.id = id.text ∧ IterationRow.BeyondCalendar r) ∨
        ∃ i, findIteration id s = .ok (some i) ∧ Faults (g i) s := by
  rw [faults_bind, faults_iterationNamed h hdistinct]
  simp only [iterationNamed_runOn_eq_ok]
  simp

theorem faults_createChild {scope : Scope} {parent : Uuid} {new : NewIteration} (h : AllHold s)
    (hdistinct : (s.iterations.map (·.id)).Nodup) :
    Faults (createChild scope id now parent new) s ↔
      (∃ r ∈ s.iterations, r.id = parent.text ∧ IterationRow.BeyondCalendar r) ∨
        (∃ above, findIteration parent s = .ok (some above)) ∧ Unwritable s id new := by
  rw [createChild, faults_transaction, faults_iterationNamed_bind h hdistinct]
  refine or_congr_right ?_
  rw [← exists_and_right]
  refine exists_congr fun above => and_congr_right fun hfound => ?_
  refine faults_insert_draft fun p hp => ?_
  cases hp
  exact (holds_of_findIteration h hfound).2.2

theorem faults_listIterations {space : Uuid} (h : AllHold s) : Faults (listIterations space) s ↔
    ∃ r ∈ s.iterations, r.space = space.text ∧ IterationRow.BeyondCalendar r := by
  rw [listIterations, faults_get_bind, faults_ofResult, faulty_mapM_of_forall]
  · simp only [mem_listed, and_assoc]
    refine exists_congr fun r => and_congr_right fun hr => and_congr_right fun _ => ?_
    obtain ⟨i, hi⟩ := h r hr
    exact hi.faulty_read_iff
  · intro r hr
    obtain ⟨i, hi⟩ := h r (mem_listed.1 hr).1
    exact hi.read_cases

theorem faults_saveIteration {scope : Scope} (h : AllHold s)
    (hdistinct : (s.iterations.map (·.id)).Nodup) : Faults (saveIteration scope i) s ↔
      (∃ r ∈ s.iterations, r.id = i.id.text ∧ IterationRow.BeyondCalendar r) ∨
        (∃ held, findIteration i.id s = .ok (some held)) ∧ Faulty (checkIteration i s) := by
  rw [saveIteration, faults_transaction, faults_iterationNamed_bind h hdistinct]
  simp [faults_updateIteration]

theorem not_faults_canStart (i : Iteration) (s : Store) : ¬ Faults (canStart i) s := by
  rw [canStart, faults_get_bind]
  split <;> simp [alreadyStarted]

theorem faults_moveIteration {scope : Scope} {state : IterationState} (h : AllHold s)
    (hdistinct : (s.iterations.map (·.id)).Nodup) : Faults (moveIteration scope id state) s ↔
      ∃ r ∈ s.iterations, r.id = id.text ∧ IterationRow.BeyondCalendar r := by
  rw [moveIteration, faults_transaction, faults_iterationNamed_bind h hdistinct]
  refine or_iff_left ?_
  rintro ⟨i, hfound, hfaults⟩
  obtain ⟨hname, hparent, -⟩ := holds_of_findIteration h hfound
  have hcheck : ¬ Faulty (checkIteration { i with state := state } s) := by
    rw [faulty_checkIteration]
    rintro (hblank | ⟨-, hmissing⟩)
    · exact absurd (hname.symm.trans hblank) (by simp)
    · exact absurd (hparent.symm.trans hmissing) (by simp)
  simp only at hfaults
  split at hfaults
  · rcases faults_bind.1 hfaults with hfaults | ⟨_, t, hcan, hfaults⟩
    · exact not_faults_canStart i s hfaults
    · obtain rfl := (readOnly_canStart i).eq_of_runOn hcan
      simp [faults_updateIteration, hcheck] at hfaults
  · simp [faults_updateIteration, hcheck] at hfaults

end Iterations

end Store

end Backlog
