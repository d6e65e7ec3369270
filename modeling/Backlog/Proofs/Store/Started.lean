import Backlog.Proofs.Store.Change
import Mathlib.Data.List.Nodup

/-!
# One started iteration for each space

**Main statement (`started_at_most_one`).** After every run, at most one iteration of a space is
started.

A row is checked against all other rows when it is written, with the space, the state and the
parent that it is going to have. So it does not matter whether a write starts an iteration or moves
a started one into another space. Ids have to be distinct: a write replaces every row under its id,
and the check leaves out the rows under that id.
-/

namespace Backlog.Store

variable {s s' : Store} {i : Iteration} {now : Int}

/-- A row says that its iteration is started. -/
def IterationRow.Started (r : IterationRow) : Prop := r.state = IterationState.start.name

/-- Ids are distinct, and started iterations of one space are the same. -/
structure OneStarted (s : Store) : Prop where
  distinct : (s.iterations.map (·.id)).Nodup
  one : ∀ r ∈ s.iterations, ∀ q ∈ s.iterations, IterationRow.Started r → IterationRow.Started q →
    r.space = q.space → r.id = q.id

theorem oneStarted_empty : OneStarted empty := ⟨List.nodup_nil, by simp [empty]⟩

/-! ## Writes -/

theorem started_rowOf : IterationRow.Started (rowOf i now) ↔ i.state = .start := by
  show i.state.name = IterationState.start.name ↔ i.state = .start
  generalize i.state = state
  cases state <;> decide

/-- A row that passes the checks is the only started one of its space. -/
theorem id_of_checkIteration (h : checkIteration i s = .ok ()) (hi : i.state = .start)
    {r : IterationRow} (hr : r ∈ s.iterations) (hstarted : IterationRow.Started r)
    (hspace : r.space = i.spaceId.text) : r.id = i.id.text := by
  have hnone := (checkIteration_eq_ok.1 h).2.1 hi
  simp only [otherStarted, List.any_eq_false, decide_eq_true_eq, not_and, Decidable.not_not]
    at hnone
  exact hnone r hr hspace hstarted

theorem OneStarted.addIteration (h : OneStarted s) (fresh : ∀ r ∈ s.iterations, r.id ≠ i.id.text)
    (checked : checkIteration i s = .ok ()) : OneStarted (addIteration now i s) := by
  constructor
  · simp only [Store.addIteration, List.map_append, List.map_cons, List.map_nil]
    refine List.nodup_append.2 ⟨h.distinct, List.nodup_singleton _, ?_⟩
    rintro x hx y hy rfl
    obtain ⟨r, hr, rfl⟩ := List.mem_map.1 hx
    exact fresh r hr (List.mem_singleton.1 hy)
  · intro r hr q hq hrs hqs hspace
    simp only [Store.addIteration, List.mem_append, List.mem_singleton] at hr hq
    rcases hr with hr | rfl <;> rcases hq with hq | rfl
    · exact h.one r hr q hq hrs hqs hspace
    · exact id_of_checkIteration checked (started_rowOf.1 hqs) hr hrs hspace
    · exact (id_of_checkIteration checked (started_rowOf.1 hrs) hq hqs hspace.symm).symm
    · rfl

/-- A row of the store after an iteration has been written over is that iteration's, or it is an
old row under another id. -/
theorem mem_setIteration {r : IterationRow} (h : r ∈ (setIteration i s).iterations) :
    (∃ created, r = rowOf i created) ∨ (r ∈ s.iterations ∧ r.id ≠ i.id.text) := by
  obtain ⟨q, hq, rfl⟩ := List.mem_map.1 h
  by_cases hid : q.id = i.id.text
  · exact .inl ⟨q.created, by rw [if_pos hid]⟩
  · exact .inr (by rw [if_neg hid]; exact ⟨hq, hid⟩)

theorem ids_setIteration (i : Iteration) (s : Store) :
    (setIteration i s).iterations.map (·.id) = s.iterations.map (·.id) := by
  simp only [setIteration, List.map_map]
  refine List.map_congr_left fun r _ => ?_
  by_cases hid : r.id = i.id.text
  · simp [hid, rowOf]
  · simp [hid]

theorem OneStarted.setIteration (h : OneStarted s) (checked : checkIteration i s = .ok ()) :
    OneStarted (setIteration i s) := by
  constructor
  · rw [ids_setIteration]
    exact h.distinct
  · intro r hr q hq hrs hqs hspace
    rcases mem_setIteration hr with ⟨_, rfl⟩ | ⟨hr, hrid⟩ <;>
      rcases mem_setIteration hq with ⟨_, rfl⟩ | ⟨hq, hqid⟩
    · rfl
    · exact (id_of_checkIteration checked (started_rowOf.1 hrs) hq hqs hspace.symm).symm
    · exact id_of_checkIteration checked (started_rowOf.1 hqs) hr hrs hspace
    · exact h.one r hr q hq hrs hqs hspace

/-! ## Runs -/

theorem OneStarted.of_iterations (h : OneStarted s) (heq : s'.iterations = s.iterations) :
    OneStarted s' := by
  obtain ⟨distinct, one⟩ := h
  rw [← heq] at distinct one
  exact ⟨distinct, one⟩

theorem OneStarted.effect {op : Operation} {a : Answer} (h : OneStarted s)
    (heffect : Operation.Effect s op a s') : OneStarted s' := by
  cases heffect with
  | seedTypes grows | createType grows =>
    obtain ⟨rows, rfl⟩ := grows.exists_append
    exact h.of_iterations rfl
  | createIteration _ fresh checked => exact h.addIteration fresh checked
  | createChild _ _ fresh checked => exact h.addIteration fresh checked
  | saveIteration _ checked => exact h.setIteration checked
  | moveIteration _ checked => exact h.setIteration checked
  | looks | createIdentity | createItem | saveItem | assignItem | deleteItem =>
    exact h.of_iterations rfl

theorem OneStarted.run (ops : List Operation) : OneStarted (run ops empty).2 :=
  run_induction ops oneStarted_empty fun _ => OneStarted.effect

/-- After every run, at most one iteration of a space is started. -/
theorem started_at_most_one (ops : List Operation) (space : String) :
    ((run ops empty).2.iterations.filter fun r =>
      r.space = space ∧ r.state = IterationState.start.name).length ≤ 1 := by
  have h := OneStarted.run ops
  generalize hstarted : (run ops empty).2.iterations.filter (fun r =>
    r.space = space ∧ r.state = IterationState.start.name) = started
  have hmem : ∀ r ∈ started, r ∈ (run ops empty).2.iterations ∧ r.space = space ∧
      IterationRow.Started r := by
    intro r hr
    rw [← hstarted, List.mem_filter] at hr
    simpa [IterationRow.Started] using hr
  have hdistinct : (started.map (·.id)).Nodup := by
    rw [← hstarted]
    exact h.distinct.sublist (List.filter_sublist.map _)
  rcases started with _ | ⟨r, _ | ⟨q, rest⟩⟩
  · exact Nat.zero_le 1
  · exact Nat.le_refl 1
  · obtain ⟨hr, hrspace, hrs⟩ := hmem r List.mem_cons_self
    obtain ⟨hq, hqspace, hqs⟩ := hmem q (List.mem_cons_of_mem _ List.mem_cons_self)
    have hid := h.one r hr q hq hrs hqs (hrspace.trans hqspace.symm)
    simp [hid] at hdistinct

end Backlog.Store
