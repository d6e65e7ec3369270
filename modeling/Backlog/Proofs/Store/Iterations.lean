import Backlog.Proofs.Store.Action
import Backlog.Store.Iterations

/-!
# What the operations on iterations do

Every write of an iteration passes `checkIteration` and either adds a row under a new id or
replaces every column of the rows under its id.
-/

namespace Backlog.Store

open Store.Action

variable {s s' : Store} {i j : Iteration} {id : Uuid} {now : Int} {scope : Scope}

/-! ## Rows -/

/-- The store with a new iteration. -/
def addIteration (now : Int) (i : Iteration) (s : Store) : Store :=
  { s with iterations := s.iterations ++ [rowOf i now] }

/-- The store with an iteration written over its row. -/
def setIteration (i : Iteration) (s : Store) : Store :=
  { s with iterations := s.iterations.map fun r =>
      if r.id = i.id.text then rowOf i r.created else r }

/-! ## Statements -/

theorem iterationNamed_runOn_eq_ok :
    (iterationNamed id).runOn s = (.ok i, s') ↔ findIteration id s = .ok (some i) ∧ s = s' :=
  lookup_runOn_eq_ok (fun _ => rfl) rfl

theorem iterationNamed_bind_runOn_eq_ok {α : Type} {f : Iteration → Action α} {x : α} :
    (iterationNamed id >>= f).runOn s = (.ok x, s') ↔
      ∃ i, findIteration id s = .ok (some i) ∧ (f i).runOn s = (.ok x, s') :=
  look_bind_runOn_eq_ok fun _ _ => iterationNamed_runOn_eq_ok

theorem readOnly_iterationNamed (id : Uuid) : ReadOnly (iterationNamed id) :=
  readOnly_lookup (fun _ => rfl) rfl

theorem checkIteration_eq_ok {u : Unit} :
    checkIteration i s = .ok u ↔ hasContent i.name = true ∧
      (i.state = .start → otherStarted i.id.text i.spaceId.text s = false) ∧
      hasParent i s = true := by
  rw [checkIteration]
  cases hasContent i.name with
  | false => simp
  | true =>
    by_cases hstart : i.state = .start
    · cases otherStarted i.id.text i.spaceId.text s <;> cases hasParent i s <;> simp [hstart]
    · cases hasParent i s <;> simp [hstart]

theorem insertIteration_runOn_eq_ok {u : Unit} :
    (insertIteration now i).runOn s = (.ok u, s') ↔
      (∀ r ∈ s.iterations, r.id ≠ i.id.text) ∧ checkIteration i s = .ok () ∧
        s' = addIteration now i s := by
  rw [insertIteration, statement_runOn_eq_ok]
  by_cases hname : hasContent i.name = true
  · by_cases hid : s.iterations.any (·.id = i.id.text) = true
    · simp only [hname, hid, not_true_eq_false, if_true, if_false]
      constructor
      · intro h
        cases h
      · intro h
        obtain ⟨hnew, -⟩ := h
        obtain ⟨r, hr, hrid⟩ := List.any_eq_true.1 hid
        exact absurd (by simpa using hrid) (hnew r hr)
    · simp only [hname, hid, not_true_eq_false, if_false]
      have hnew : ∀ r ∈ s.iterations, r.id ≠ i.id.text := by simpa using hid
      refine bind_eq_ok.trans ?_
      constructor
      · intro h
        obtain ⟨_, hcheck, ⟨⟩⟩ := h
        exact ⟨hnew, hcheck, rfl⟩
      · intro h
        obtain ⟨-, hcheck, rfl⟩ := h
        exact ⟨(), hcheck, rfl⟩
  · rw [if_pos hname]
    constructor
    · intro h
      cases h
    · intro h
      obtain ⟨-, hcheck, -⟩ := h
      exact absurd (checkIteration_eq_ok.1 hcheck).1 hname

theorem updateIteration_runOn_eq_ok {u : Unit} :
    (updateIteration i).runOn s = (.ok u, s') ↔
      checkIteration i s = .ok () ∧ s' = setIteration i s := by
  rw [updateIteration, statement_runOn_eq_ok, bind_eq_ok]
  constructor
  · intro h
    obtain ⟨_, hcheck, ⟨⟩⟩ := h
    exact ⟨hcheck, rfl⟩
  · intro h
    obtain ⟨hcheck, rfl⟩ := h
    exact ⟨(), hcheck, rfl⟩

/-! ## Operations -/

theorem createIteration_runOn_eq_ok {new : NewIteration} :
    (createIteration id now new).runOn s = (.ok i, s') ↔
      draft id new.spaceId none new = .ok i ∧ (∀ r ∈ s.iterations, r.id ≠ i.id.text) ∧
        checkIteration i s = .ok () ∧ s' = addIteration now i s := by
  rw [createIteration, ofResult_bind_runOn_eq_ok]
  constructor
  · intro h
    obtain ⟨j, hj, h⟩ := h
    obtain ⟨_, _, hinsert, h⟩ := bind_runOn_eq_ok.1 h
    cases h
    exact ⟨hj, insertIteration_runOn_eq_ok.1 hinsert⟩
  · intro h
    obtain ⟨hdraft, hinsert⟩ := h
    refine ⟨i, hdraft, bind_runOn_eq_ok.2 ⟨(), s', ?_, rfl⟩⟩
    exact insertIteration_runOn_eq_ok.2 hinsert

theorem createChild_runOn_eq_ok {parent : Uuid} {new : NewIteration} :
    (createChild scope id now parent new).runOn s = (.ok i, s') ↔
      ∃ above, findIteration parent s = .ok (some above) ∧
        draft id above.spaceId (some above.id) new = .ok i ∧
        (∀ r ∈ s.iterations, r.id ≠ i.id.text) ∧ checkIteration i s = .ok () ∧
        s' = addIteration now i s := by
  rw [createChild, transaction_runOn_eq_ok, iterationNamed_bind_runOn_eq_ok]
  constructor
  · intro h
    obtain ⟨above, habove, h⟩ := h
    obtain ⟨j, hj, h⟩ := ofResult_bind_runOn_eq_ok.1 h
    obtain ⟨_, _, hinsert, h⟩ := bind_runOn_eq_ok.1 h
    cases h
    exact ⟨above, habove, hj, insertIteration_runOn_eq_ok.1 hinsert⟩
  · intro h
    obtain ⟨above, habove, hdraft, hinsert⟩ := h
    refine ⟨above, habove, ofResult_bind_runOn_eq_ok.2 ⟨i, hdraft, ?_⟩⟩
    refine bind_runOn_eq_ok.2 ⟨(), s', ?_, rfl⟩
    exact insertIteration_runOn_eq_ok.2 hinsert

theorem saveIteration_runOn_eq_ok :
    (saveIteration scope i).runOn s = (.ok j, s') ↔
      (∃ held, findIteration i.id s = .ok (some held)) ∧ checkIteration i s = .ok () ∧ j = i ∧
        s' = setIteration i s := by
  rw [saveIteration, transaction_runOn_eq_ok, iterationNamed_bind_runOn_eq_ok]
  constructor
  · intro h
    obtain ⟨held, hheld, h⟩ := h
    obtain ⟨_, _, hupdate, h⟩ := bind_runOn_eq_ok.1 h
    obtain ⟨hcheck, rfl⟩ := updateIteration_runOn_eq_ok.1 hupdate
    cases h
    exact ⟨⟨held, hheld⟩, hcheck, rfl, rfl⟩
  · intro h
    obtain ⟨⟨held, hheld⟩, hcheck, rfl, rfl⟩ := h
    refine ⟨held, hheld, bind_runOn_eq_ok.2 ?_⟩
    exact ⟨(), _, updateIteration_runOn_eq_ok.2 ⟨hcheck, rfl⟩, rfl⟩

theorem readOnly_canStart (i : Iteration) : ReadOnly (canStart i) := by
  refine readOnly_get.bind fun s => ?_
  split
  · exact (readOnly_throw _).bind fun _ => readOnly_pure _
  · exact readOnly_pure _

theorem moveIteration_runOn_eq_ok {state : IterationState}
    (h : (moveIteration scope id state).runOn s = (.ok j, s')) :
    ∃ i, findIteration id s = .ok (some i) ∧ j = { i with state := state } ∧
      checkIteration j s = .ok () ∧ s' = setIteration j s := by
  obtain ⟨i, hi, h⟩ := iterationNamed_bind_runOn_eq_ok.1 (transaction_runOn_eq_ok.1 h)
  have hwrite : (do
      updateIteration { i with state := state }
      return { i with state := state } : Action Iteration).runOn s = (.ok j, s') := by
    dsimp only at h
    split at h
    · obtain ⟨_, _, hcan, h⟩ := bind_runOn_eq_ok.1 h
      obtain rfl := (readOnly_canStart i).eq_of_runOn hcan
      exact h
    · exact h
  obtain ⟨_, _, hupdate, hdone⟩ := bind_runOn_eq_ok.1 hwrite
  obtain ⟨hcheck, rfl⟩ := updateIteration_runOn_eq_ok.1 hupdate
  cases hdone
  exact ⟨i, hi, rfl, hcheck, rfl⟩

/-! ## Lists -/

theorem runOn_listIterations (space : Uuid) (s : Store) :
    (listIterations space).runOn s = (((s.iterations.filter (·.space = space.text)).mergeSort
      IterationRow.le).mapM IterationRow.read, s) := by
  rw [listIterations, get_bind_runOn]
  exact runOn_ofResult _ _

theorem mem_listed {space : Uuid} : r ∈ (s.iterations.filter (·.space = space.text)).mergeSort
    IterationRow.le ↔ r ∈ s.iterations ∧ r.space = space.text := by
  simp [List.mem_mergeSort, List.mem_filter]

end Backlog.Store
