import Backlog.Proofs.Store.Causes

/-!
# The check beforehand and the store agree

One started iteration for each space is checked twice: `canStart` counts the other started
iterations of the space that the caller names, and the store looks at the rows as they would be
after the write.

**Main statement (`starts_iff_canStart`).** Saving an iteration as started, or moving it to that
state, succeeds exactly if `canStart` does, and both are refused with the same error otherwise. An
iteration that is started already can always be moved so.

**The gap** (`exists_start_refused`). A write reads the row that it replaces, and fails if that
cannot be read: a leap second at the end of the calendar is written as a moment beyond it.
-/

namespace Backlog.Store

open Store.Action

variable {s s' : Store} {i j : Iteration} {id : Uuid} {r : IterationRow} {write : Action Iteration}

/-! ## The check -/

theorem runOn_canStart (i : Iteration) (s : Store) : (canStart i).runOn s =
    (if otherStarted i.id.text i.spaceId.text s then .error (alreadyStarted i.spaceId)
      else .ok true, s) := by
  rw [canStart, get_bind_runOn]
  split <;> rfl

/-- A write is refused exactly if the check beforehand is, and with the same error. -/
structure Agrees (i : Iteration) (write : Action Iteration) (s : Store) : Prop where
  iff : (∃ j s', write.runOn s = (.ok j, s')) ↔ (canStart i).runOn s = (.ok true, s)
  refused : (canStart i).runOn s ≠ (.ok true, s) →
    (canStart i).runOn s = (.error (alreadyStarted i.spaceId), s) ∧
      write.runOn s = (.error (alreadyStarted i.spaceId), s)

theorem agrees_of_runOn (h : write.runOn s =
    if otherStarted i.id.text i.spaceId.text s then (.error (alreadyStarted i.spaceId), s)
    else (.ok j, s')) : Agrees i write s := by
  cases hother : otherStarted i.id.text i.spaceId.text s with
  | false =>
    rw [hother] at h
    have hcan : (canStart i).runOn s = (.ok true, s) := by rw [runOn_canStart, hother]; rfl
    exact ⟨iff_of_true ⟨j, s', h⟩ hcan, fun hrefused => absurd hcan hrefused⟩
  | true =>
    rw [hother] at h
    have hcan : (canStart i).runOn s = (.error (alreadyStarted i.spaceId), s) := by
      rw [runOn_canStart, hother]
      rfl
    refine ⟨iff_of_false ?_ ?_, fun _ => ⟨hcan, h⟩⟩
    · rintro ⟨j, s', hwrite⟩
      rw [h] at hwrite
      cases hwrite
    · rw [hcan]
      simp

/-! ## The writes -/

theorem runOn_iterationNamed (hfound : findIteration id s = .ok (some i)) :
    (iterationNamed id).runOn s = (.ok i, s) :=
  iterationNamed_runOn_eq_ok.2 ⟨hfound, rfl⟩

theorem checkIteration_start (hstart : i.state = .start) (hname : hasContent i.name = true)
    (hparent : hasParent i s = true) : checkIteration i s =
      if otherStarted i.id.text i.spaceId.text s then .error (alreadyStarted i.spaceId)
      else .ok () := by
  simp [checkIteration, hstart, hname, hparent]

/-- The store looks at the rows as they are, without those that the write replaces. -/
theorem runOn_updateIteration_start (hstart : i.state = .start)
    (hname : hasContent i.name = true) (hparent : hasParent i s = true) :
    (updateIteration i).runOn s =
      if otherStarted i.id.text i.spaceId.text s then (.error (alreadyStarted i.spaceId), s)
      else (.ok (), setIteration i s) := by
  rw [updateIteration, runOn_statement, checkIteration_start hstart hname hparent]
  cases otherStarted i.id.text i.spaceId.text s <;> rfl

theorem runOn_saveIteration_start (hfound : findIteration i.id s = .ok (some j))
    (hstart : i.state = .start) (hname : hasContent i.name = true)
    (hparent : hasParent i s = true) : (saveIteration .own i).runOn s =
      if otherStarted i.id.text i.spaceId.text s then (.error (alreadyStarted i.spaceId), s)
      else (.ok i, setIteration i s) := by
  rw [saveIteration, transaction, runOn_atomically, runOn_bind, runOn_iterationNamed hfound]
  simp only [runOn_bind, runOn_updateIteration_start hstart hname hparent]
  cases otherStarted i.id.text i.spaceId.text s <;> rfl

theorem runOn_moveIteration_start (hfound : findIteration id s = .ok (some i))
    (hname : hasContent i.name = true) (hparent : hasParent i s = true) :
    (moveIteration .own id .start).runOn s =
      if otherStarted i.id.text i.spaceId.text s then (.error (alreadyStarted i.spaceId), s)
      else (.ok { i with state := .start }, setIteration { i with state := .start } s) := by
  have hwrite := runOn_updateIteration_start (i := { i with state := .start }) rfl hname hparent
  rw [moveIteration, transaction, runOn_atomically, runOn_bind, runOn_iterationNamed hfound]
  simp only [if_true, runOn_bind, runOn_canStart]
  cases hother : otherStarted i.id.text i.spaceId.text s with
  | false =>
    rw [hother] at hwrite
    simp [hwrite]
  | true => rfl

/-- No other iteration of the space is started beside one that is. -/
theorem otherStarted_of_started (h : OneStarted s) (hr : r ∈ s.iterations)
    (hstarted : IterationRow.Started r) : otherStarted r.id r.space s = false := by
  simp only [otherStarted, List.any_eq_false, decide_eq_true_eq, not_and, Decidable.not_not]
  exact fun q hq hspace hqstarted => h.one q hq r hr hqstarted hstarted hspace

/-! ## Rows that can be read -/

theorem exists_findIteration (hheld : AllHold s) (hone : OneStarted s) (hr : r ∈ s.iterations)
    (hid : r.id = id.text) (hbeyond : ¬ IterationRow.BeyondCalendar r) :
    ∃ i, findIteration id s = .ok (some i) ∧ i.id.text = r.id ∧ i.spaceId.text = r.space ∧
      i.state.name = r.state := by
  obtain ⟨j, hj⟩ := hheld r hr
  obtain ⟨i, hread⟩ := hj.exists_read_iff.2 hbeyond
  obtain ⟨start, stop, rfl⟩ := hj.of_read hread
  refine ⟨_, by rw [findIteration_of_mem hone.distinct hr hid, hread]; rfl, ?_⟩
  rw [hj.row]
  exact ⟨rfl, rfl, rfl⟩

/-- **The check beforehand and the store agree.** After every run, for every row of an iteration
that can be read: writing an iteration with a name and a parent over it as started succeeds exactly
if the check for that iteration does, and so does moving it to that state, with the check for what
is loaded. Otherwise the check and the write are refused with the same error. What is started
already can be moved so. Where the row cannot be read, both writes are failures of the store. -/
theorem starts_iff_canStart (hs : Reachable s) (hr : r ∈ s.iterations) :
    (¬ IterationRow.BeyondCalendar r →
      (∀ i : Iteration, r.id = i.id.text → i.state = .start → hasContent i.name = true →
        hasParent i s = true → Agrees i (saveIteration .own i) s) ∧
      ∀ id : Uuid, r.id = id.text → ∃ held, (loadIteration id).runOn s = (.ok held, s) ∧
        Agrees held (moveIteration .own id .start) s ∧
        (held.state = .start → ∃ i s', (moveIteration .own id .start).runOn s = (.ok i, s'))) ∧
    (IterationRow.BeyondCalendar r →
      (∀ i : Iteration, r.id = i.id.text → Faults (saveIteration .own i) s) ∧
      ∀ id : Uuid, r.id = id.text → Faults (moveIteration .own id .start) s) := by
  obtain ⟨hheld, hone⟩ : AllHold s ∧ OneStarted s := by
    obtain ⟨ops, rfl⟩ := hs
    exact ⟨.run ops, .run ops⟩
  refine ⟨fun hreads => ⟨fun i hid hstart hname hparent => ?_, fun id hid => ?_⟩,
    fun hbeyond => ⟨fun i hid => ?_, fun id hid => ?_⟩⟩
  · obtain ⟨held, hfound, -⟩ := exists_findIteration hheld hone hr hid hreads
    exact agrees_of_runOn (runOn_saveIteration_start hfound hstart hname hparent)
  · obtain ⟨held, hfound, hheldId, hspace, hstate⟩ :=
      exists_findIteration hheld hone hr hid hreads
    obtain ⟨hname, hparent, -⟩ := holds_of_findIteration hheld hfound
    have hmove := runOn_moveIteration_start hfound hname hparent
    refine ⟨held, runOn_iterationNamed hfound, agrees_of_runOn hmove, fun hstart => ?_⟩
    have hstarted : IterationRow.Started r := by rw [IterationRow.Started, ← hstate, hstart]
    rw [hheldId, hspace, otherStarted_of_started hone hr hstarted] at hmove
    exact ⟨_, _, hmove⟩
  · exact (faults_saveIteration hheld hone.distinct).2 (.inl ⟨r, hr, hid, hbeyond⟩)
  · exact (faults_moveIteration hheld hone.distinct).2 ⟨r, hr, hid, hbeyond⟩

/-! ## Two iterations of a space -/

def firstId : Uuid := ⟨5, by decide⟩

def secondId : Uuid := ⟨6, by decide⟩

/-- Two iterations of one space, the first of which is started. -/
def startedRun : List Operation :=
  [.createIteration firstId 0 { spaceId := default, name := "a" },
    .createIteration secondId 0 { spaceId := default, name := "b" },
    .moveIteration firstId .start]

/-- The second iteration, as a caller would start it. -/
def second : Iteration where
  id := secondId
  spaceId := default
  name := "b"
  state := .start

theorem iterations_startedRun : (run startedRun empty).2.iterations =
    [rowOf { second with id := firstId, name := "a" } 0,
      rowOf { second with state := .new } 0] := by
  decide +kernel

/-- The second iteration is not saved as started, and the first one can be started again. -/
theorem starts_iff_canStart_startedRun :
    (saveIteration .own second).runOn (run startedRun empty).2 =
        (.error (alreadyStarted default), (run startedRun empty).2) ∧
      ∃ i s', (moveIteration .own firstId .start).runOn (run startedRun empty).2 = (.ok i, s') := by
  have hrows := iterations_startedRun
  constructor
  · have hr : rowOf { second with state := .new } 0 ∈ (run startedRun empty).2.iterations := by
      rw [hrows]
      exact List.mem_cons_of_mem _ (List.mem_singleton_self _)
    obtain ⟨hsave, -⟩ := (starts_iff_canStart ⟨startedRun, rfl⟩ hr).1
      (by simp [IterationRow.BeyondCalendar, rowOf, second])
    refine ((hsave second rfl rfl (by decide) rfl).refused ?_).2
    have hother : otherStarted second.id.text second.spaceId.text (run startedRun empty).2 =
        true := by
      rw [otherStarted, hrows]
      decide +kernel
    rw [runOn_canStart, hother]
    simp
  · have hr : rowOf { second with id := firstId, name := "a" } 0 ∈
        (run startedRun empty).2.iterations := by
      rw [hrows]
      exact List.mem_cons_self
    obtain ⟨-, hmove⟩ := (starts_iff_canStart ⟨startedRun, rfl⟩ hr).1
      (by simp [IterationRow.BeyondCalendar, rowOf, second])
    obtain ⟨held, hload, -, hstarted⟩ := hmove firstId rfl
    refine hstarted ?_
    obtain ⟨hfound, -⟩ := iterationNamed_runOn_eq_ok.1 hload
    rw [findIteration, hrows] at hfound
    cases hfound
    rfl

/-! ## The gap -/

/-- An iteration starts in a leap second at the end of the calendar. -/
def leapRun : List Operation :=
  [.createIteration firstId 0
    { spaceId := default, name := "a", startAt := some ⟨Moment.maxSeconds, 1000000000⟩ }]

/-- The same iteration, started and without that moment. -/
def leapSaved : Iteration := { second with id := firstId, name := "a" }

theorem iterations_leapRun : (run leapRun empty).2.iterations =
    [rowOf { leapSaved with
      state := .new, startAt := some ⟨Moment.maxSeconds, 1000000000⟩ } 0] := rfl

/-- Not every iteration that can start by the check beforehand can be saved so. -/
theorem exists_start_refused : ¬ ∀ (s : Store) (i : Iteration), Reachable s →
    (∃ r ∈ s.iterations, r.id = i.id.text) → i.state = .start → hasContent i.name = true →
      hasParent i s = true →
        ((∃ j s', (saveIteration .own i).runOn s = (.ok j, s')) ↔
          (canStart i).runOn s = (.ok true, s)) := by
  intro h
  have hrow := iterations_leapRun
  have hr := hrow ▸ List.mem_singleton_self _
  have hagree := h (run leapRun empty).2 leapSaved ⟨leapRun, rfl⟩ ⟨_, hr, rfl⟩ rfl (by decide) rfl
  have hother : otherStarted leapSaved.id.text leapSaved.spaceId.text (run leapRun empty).2 =
      false := by
    rw [otherStarted, hrow]
    decide +kernel
  have hfaults : Faults (saveIteration .own leapSaved) (run leapRun empty).2 := by
    refine (faults_saveIteration (.run leapRun) (OneStarted.run leapRun).distinct).2
      (.inl ⟨_, hr, rfl, _, .inl rfl, ?_⟩)
    decide +kernel
  obtain ⟨j, s', hsave⟩ := hagree.2 (by rw [runOn_canStart, hother]; rfl)
  rw [Faults, hsave] at hfaults
  exact not_faulty_ok _ hfaults

end Backlog.Store
