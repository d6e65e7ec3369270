import Backlog.Proofs.Store.Written

/-!
# Iterations are read back to the microsecond

An operation that writes an iteration answers with what it was given. Every later look rebuilds the
iteration from the columns of its row, and moments stand there as whole microseconds.

**Main statement (`iteration_then_read`).** An iteration that has been written is loaded and listed
as it was answered exactly if its moments are kept (`Moment.Kept`). Moving an iteration to a state
always answers what is kept: it starts from the row. The other columns lose nothing.

**The gap** (`exists_iteration_not_read_back`): a moment finer than a microsecond is answered and
then cut, and one within a leap second comes back in the second after it.
-/

namespace Backlog

/-! ## Moments -/

namespace Moment

variable {t : Moment} {us : Int}

/-- The moment is a whole number of microseconds, in no leap second. -/
structure Kept (t : Moment) : Prop where
  whole : t.nanos % 1000 = 0
  plain : t.nanos < 1000000000
  inRange : t.InRange

theorem kept_of_ofMicros? (h : ofMicros? us = some t) : t.Kept := by
  simp only [ofMicros?, Option.ite_none_right_eq_some, Option.some.injEq] at h
  obtain ⟨hrange, rfl⟩ := h
  refine ⟨Nat.mul_mod_left _ _, ?_, hrange⟩
  show (us % 1000000).toNat * 1000 < 1000000000
  omega

/-- A moment comes back from its microseconds exactly if it is kept. -/
theorem ofMicros?_micros : ofMicros? t.micros = some t ↔ t.Kept := by
  constructor
  · exact kept_of_ofMicros?
  · intro h
    obtain ⟨seconds, nanos⟩ := t
    obtain ⟨hwhole, hplain, hrange⟩ := h
    dsimp only at hwhole hplain
    have hseconds : (seconds * 1000000 + (nanos / 1000 : Nat)) / 1000000 = seconds := by omega
    have hnanos : ((seconds * 1000000 + (nanos / 1000 : Nat)) % 1000000).toNat * 1000 = nanos := by
      omega
    simp only [ofMicros?, micros, hseconds, hnanos]
    exact if_pos hrange

end Moment

/-- The moments of the iteration are kept. -/
def Iteration.MomentsKept (i : Iteration) : Prop :=
  ∀ t, i.startAt = some t ∨ i.endAt = some t → t.Kept

namespace Store

open Store.Action

variable {s s' : Store} {i j : Iteration} {r : IterationRow} {id : Uuid} {created : Int}
  {op : Operation}

/-! ## Reading a row -/

theorem readOptional_storedMoment_micros {p : Option Moment} :
    readOptional storedMoment (p.map Moment.micros) = .ok p ↔ ∀ t, p = some t → t.Kept := by
  cases p with
  | none => simp [readOptional]
  | some t =>
    have hread : readOptional storedMoment (some t.micros) = .ok (some t) ↔
        Moment.ofMicros? t.micros = some t := by
      cases h : Moment.ofMicros? t.micros <;> simp [readOptional, storedMoment, h]
    simpa using hread.trans Moment.ofMicros?_micros

theorem kept_of_readOptional {us : Option Int} {t : Moment}
    (h : readOptional storedMoment us = .ok (some t)) : t.Kept := by
  cases us with
  | none => cases h
  | some n =>
    obtain ⟨t', hread, ⟨⟩⟩ := map_eq_ok.1 h
    rw [storedMoment] at hread
    split at hread
    next hmoment =>
      cases hread
      exact Moment.kept_of_ofMicros? hmoment
    · cases hread

/-- An iteration comes back from its row exactly if its moments are kept. -/
theorem read_rowOf_eq_ok_self : IterationRow.read (rowOf i created) = .ok i ↔ i.MomentsKept := by
  simp only [read_rowOf, bind_eq_ok, Iteration.MomentsKept, or_imp, forall_and,
    ← readOptional_storedMoment_micros]
  constructor
  · intro h
    obtain ⟨start, hstart, stop, hstop, heq⟩ := h
    have hi : { i with startAt := start, endAt := stop } = i := Except.ok.inj heq
    have hstart' : start = i.startAt := congrArg Iteration.startAt hi
    have hstop' : stop = i.endAt := congrArg Iteration.endAt hi
    exact ⟨hstart' ▸ hstart, hstop' ▸ hstop⟩
  · intro h
    obtain ⟨hstart, hstop⟩ := h
    exact ⟨i.startAt, hstart, i.endAt, hstop, rfl⟩

/-- What is read from a row is kept. -/
theorem IterationRow.Holds.momentsKept_of_read (h : IterationRow.Holds s r i)
    (hread : IterationRow.read r = .ok j) : j.MomentsKept := by
  rw [h.row, read_rowOf, bind_eq_ok] at hread
  obtain ⟨start, hstart, hread⟩ := hread
  obtain ⟨stop, hstop, hread⟩ := bind_eq_ok.1 hread
  cases hread
  intro t ht
  rcases ht with ht | ht
  · exact kept_of_readOptional (hstart.trans (congrArg _ ht))
  · exact kept_of_readOptional (hstop.trans (congrArg _ ht))

/-! ## Loading -/

theorem loadIteration_eq_ok_self (hdistinct : (s.iterations.map (·.id)).Nodup)
    (hr : rowOf i created ∈ s.iterations) :
    (loadIteration i.id).runOn s = (.ok i, s) ↔ i.MomentsKept := by
  have hread : IterationRow.read (rowOf i created) = .ok i ↔ i.MomentsKept := read_rowOf_eq_ok_self
  rw [loadIteration, iterationNamed_runOn_eq_ok, and_iff_left rfl,
    findIteration_of_mem hdistinct hr rfl, map_eq_ok, ← hread]
  simp

/-! ## Lists -/

/-- The iterations of a space are listed exactly if no row of it stands in the way. -/
theorem exists_listIterations_iff (h : AllHold s) (space : Uuid) :
    (∃ is, (listIterations space).runOn s = (.ok is, s)) ↔
      ∀ r ∈ s.iterations, r.space = space.text → ¬ IterationRow.BeyondCalendar r := by
  simp only [runOn_listIterations, Prod.mk.injEq, and_true, mapM_eq_ok]
  constructor
  · intro hlist r hr hspace
    obtain ⟨is, his⟩ := hlist
    obtain ⟨i, hi⟩ := h r hr
    obtain ⟨j, -, hj⟩ := exists_of_mem_left his (mem_listed.2 ⟨hr, hspace⟩)
    exact hi.exists_read_iff.1 ⟨j, hj⟩
  · intro hall
    refine exists_forall₂ fun r hr => ?_
    obtain ⟨hr, hspace⟩ := mem_listed.1 hr
    obtain ⟨i, hi⟩ := h r hr
    exact hi.exists_read_iff.2 (hall r hr hspace)

/-- In a list of a space, what bears the id of an iteration of that space is what is read from its
row. -/
theorem filter_listIterations (h : AllHold s) (hdistinct : (s.iterations.map (·.id)).Nodup)
    (hr : rowOf i created ∈ s.iterations) {is : List Iteration}
    (his : (listIterations i.spaceId).runOn s = (.ok is, s)) :
    ∃ j, IterationRow.read (rowOf i created) = .ok j ∧ is.filter (·.id = i.id) = [j] := by
  rw [runOn_listIterations, Prod.mk.injEq, mapM_eq_ok] at his
  have hmem := mem_listed.2 ⟨hr, (rfl : (rowOf i created).space = i.spaceId.text)⟩
  obtain ⟨j, -, hj⟩ := exists_of_mem_left his.1 hmem
  refine ⟨j, hj, ?_⟩
  have hkeys : ∀ r ∈ (s.iterations.filter (·.space = i.spaceId.text)).mergeSort IterationRow.le,
      ∀ j, IterationRow.read r = .ok j → j.id.text = r.id := by
    intro r hr j hj
    obtain ⟨i', hi'⟩ := h r (mem_listed.1 hr).1
    obtain ⟨_, _, rfl⟩ := hi'.of_read hj
    rw [hi'.row]
    rfl
  have hsorted : (((s.iterations.filter (·.space = i.spaceId.text)).mergeSort
      IterationRow.le).map IterationRow.id).Nodup := by
    rw [((List.mergeSort_perm _ _).map _).nodup_iff]
    exact hdistinct.sublist (List.filter_sublist.map _)
  have hone := filter_of_forall₂ his.1 hsorted hkeys hmem (y := j) (by simp [hj, eq_comm])
  rw [← hone]
  exact List.filter_congr fun j _ => decide_eq_decide.2 Uuid.text_injective.eq_iff.symm

/-! ## After an operation -/

/-- What is answered as written stands in a row. -/
theorem exists_rowOf_mem (h : AllHold s) (hlooks : ¬ op.Looks)
    (heffect : Operation.Effect s op (.iteration i) s') :
    ∃ created, rowOf i created ∈ s'.iterations := by
  have hset {i : Iteration} {r : IterationRow} (hr : r ∈ s.iterations) (hid : r.id = i.id.text) :
      ∃ created, rowOf i created ∈ (setIteration i s).iterations :=
    ⟨r.created, List.mem_map.2 ⟨r, hr, if_pos hid⟩⟩
  cases heffect with
  | looks looks => exact absurd looks hlooks
  | createIteration | createChild => exact ⟨_, List.mem_append_right _ (List.mem_singleton_self _)⟩
  | saveIteration named =>
    obtain ⟨r, hr, hid, -⟩ := exists_row_of_findIteration named
    exact hset hr hid
  | moveIteration named =>
    obtain ⟨-, -, r, hr, hid⟩ := holds_of_findIteration h named
    exact hset hr hid

/-- **Iterations are read back as they were answered, or to the microsecond.** After every run, an
iteration that an operation has written is loaded, and found once in the list of its space, as it
was answered exactly if its moments are kept. There is a list exactly if no moment in the space lies
beyond the calendar. Moving an iteration always answers what is kept. -/
theorem iteration_then_read (ops : List Operation) (op : Operation) (hlooks : ¬ op.Looks)
    (hrun : op.run (run ops empty).2 = (.ok (.iteration i), s')) :
    ((loadIteration i.id).runOn s' = (.ok i, s') ↔ i.MomentsKept) ∧
      ((∃ is, (listIterations i.spaceId).runOn s' = (.ok is, s')) ↔
        ∀ r ∈ s'.iterations, r.space = i.spaceId.text → ¬ IterationRow.BeyondCalendar r) ∧
      (∀ is, (listIterations i.spaceId).runOn s' = (.ok is, s') →
        (is.filter (·.id = i.id) = [i] ↔ i.MomentsKept)) ∧
      ∀ id state, op = .moveIteration id state → i.MomentsKept := by
  have hheld := AllHold.run ops
  have heffect := Operation.effect_of_run hrun
  have hheld' : AllHold s' := hheld.effect heffect
  have hdistinct := ((OneStarted.run ops).effect heffect).distinct
  obtain ⟨created, hr⟩ := exists_rowOf_mem hheld hlooks heffect
  refine ⟨loadIteration_eq_ok_self hdistinct hr, exists_listIterations_iff hheld' i.spaceId, ?_, ?_⟩
  · intro is his
    obtain ⟨j, hj, hone⟩ := filter_listIterations hheld' hdistinct hr his
    rw [hone, ← read_rowOf_eq_ok_self, hj]
    simp
  · rintro id state rfl
    cases heffect with
    | looks looks => exact absurd looks hlooks
    | moveIteration named =>
      obtain ⟨q, hq, -, hread⟩ := exists_row_of_findIteration named
      obtain ⟨i₀, hi₀⟩ := hheld q hq
      -- What is answered differs in its state alone from what was read.
      have hkept := hi₀.momentsKept_of_read hread
      exact hkept

/-! ## The gap -/

/-- A new iteration that starts a nanosecond after the start of 1970. -/
def fineStart : NewIteration where
  spaceId := default
  name := "a"
  startAt := some ⟨0, 1⟩

/-- What creating it answers. -/
def fineIteration : Iteration where
  id := default
  spaceId := default
  name := "a"
  startAt := some ⟨0, 1⟩
  state := .new

theorem run_fineStart : (Operation.createIteration default 0 fineStart).run empty =
    (.ok (.iteration fineIteration), addIteration 0 fineIteration empty) := rfl

theorem not_momentsKept_fineIteration : ¬ fineIteration.MomentsKept := by
  intro h
  exact absurd (h ⟨0, 1⟩ (.inl rfl)).whole (by decide)

/-- The iteration has been made and is listed, but neither loaded nor listed as it was answered. -/
theorem iteration_then_read_fineStart : ∃ i s',
    ¬ (Operation.createIteration i.id 0 fineStart).Looks ∧
      (Operation.createIteration i.id 0 fineStart).run empty = (.ok (.iteration i), s') ∧
      (loadIteration i.id).runOn s' ≠ (.ok i, s') ∧
      ¬ ∃ is, (listIterations i.spaceId).runOn s' = (.ok is, s') ∧
        is.filter (·.id = i.id) = [i] := by
  have hlooks : ¬ (Operation.createIteration fineIteration.id 0 fineStart).Looks := id
  obtain ⟨hload, -, hlisted, -⟩ := iteration_then_read [] _ hlooks run_fineStart
  refine ⟨_, _, hlooks, run_fineStart, mt hload.1 not_momentsKept_fineIteration, ?_⟩
  rintro ⟨is, his, hone⟩
  exact not_momentsKept_fineIteration ((hlisted is his).1 hone)

/-- Not every iteration that has been written is loaded as it was answered. -/
theorem exists_iteration_not_read_back : ¬ ∀ (ops : List Operation) (op : Operation) (i : Iteration)
    (s' : Store), ¬ op.Looks → op.run (run ops empty).2 = (.ok (.iteration i), s') →
      (loadIteration i.id).runOn s' = (.ok i, s') ∧
        ∃ is, (listIterations i.spaceId).runOn s' = (.ok is, s') ∧
          is.filter (·.id = i.id) = [i] := by
  intro h
  obtain ⟨hload, -⟩ := h [] _ fineIteration _ id run_fineStart
  have hdistinct : ((addIteration 0 fineIteration empty).iterations.map (·.id)).Nodup :=
    List.nodup_singleton _
  have hr : rowOf fineIteration 0 ∈ (addIteration 0 fineIteration empty).iterations :=
    List.mem_singleton_self _
  exact not_momentsKept_fineIteration ((loadIteration_eq_ok_self hdistinct hr).1 hload)

end Store

end Backlog
