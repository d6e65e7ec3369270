import Backlog.Proofs.Store.Internal
import Backlog.Proofs.Store.Started
import Backlog.Proofs.Uuid

/-!
# What rows of iterations and identities hold

Every row of an iteration holds an iteration that was written to it, with a name and with a parent
that is there (`IterationRow.Holds`). Rows are never taken away, so the parent stays.

**Reading a row back** gives the iteration with its moments to the microsecond (`read_rowOf`),
unless a moment lies beyond the calendar then (`faulty_read_iff`). A leap second does, right before
the end of the calendar: it counts as the second that follows it.
-/

namespace Backlog.Store

variable {s s' : Store} {i j : Iteration} {r : IterationRow} {id : Uuid} {now : Int}

/-! ## Reading -/

theorem storedUuid_text (u : Uuid) : storedUuid u.text = .ok u := by
  rw [storedUuid, u.read_text]
  rfl

theorem readOptional_storedUuid (p : Option Uuid) :
    readOptional storedUuid (p.map Uuid.text) = .ok p := by
  cases p with
  | none => rfl
  | some u =>
    show (storedUuid u.text).map some = .ok (some u)
    rw [storedUuid_text]
    rfl

theorem read?_name (state : IterationState) : IterationState.read? state.name = some state := by
  cases state <;> decide

/-- An iteration is read from its row, up to what the moments lose. -/
theorem read_rowOf (i : Iteration) (created : Int) : IterationRow.read (rowOf i created) = do
    let start ← readOptional storedMoment (i.startAt.map Moment.micros)
    let stop ← readOptional storedMoment (i.endAt.map Moment.micros)
    return { i with startAt := start, endAt := stop } := by
  simp only [IterationRow.read, rowOf, storedUuid_text, readOptional_storedUuid, ok_bind,
    read?_name]

/-- A moment of the row lies beyond the calendar. -/
def IterationRow.BeyondCalendar (r : IterationRow) : Prop :=
  ∃ us, (r.start = some us ∨ r.stop = some us) ∧ Moment.ofMicros? us = none

/-- A moment that is there and within the calendar is read, and another one is a failure of the
store. -/
theorem faulty_readOptional {us : Option Int} :
    Faulty (readOptional storedMoment us) ↔ ∃ n, us = some n ∧ Moment.ofMicros? n = none := by
  cases us with
  | none => simp [readOptional]
  | some n => cases h : Moment.ofMicros? n <;> simp [readOptional, storedMoment, h]

theorem readOptional_cases (us : Option Int) :
    Faulty (readOptional storedMoment us) ∨ ∃ t, readOptional storedMoment us = .ok t := by
  cases us with
  | none => exact .inr ⟨none, rfl⟩
  | some n =>
    cases h : Moment.ofMicros? n with
    | none => exact .inl (faulty_readOptional.2 ⟨n, rfl, h⟩)
    | some t => exact .inr ⟨some t, by simp [readOptional, storedMoment, h, Except.map]⟩

/-! ## What rows hold -/

/-- The row holds an iteration with a name and with a parent that is there. -/
structure IterationRow.Holds (s : Store) (r : IterationRow) (i : Iteration) : Prop where
  row : r = rowOf i r.created
  named : hasContent i.name = true
  parent : hasParent i s = true

/-- Every row of an iteration holds one. -/
def AllHold (s : Store) : Prop := ∀ r ∈ s.iterations, ∃ i, IterationRow.Holds s r i

theorem hasParent_mono (hids : ∀ r ∈ s.iterations, ∃ r' ∈ s'.iterations, r'.id = r.id)
    (h : hasParent i s = true) : hasParent i s' = true := by
  cases hp : i.parentId with
  | none => simp [hasParent, hp]
  | some p =>
    simp only [hasParent, hp, Bool.or_eq_true, decide_eq_true_eq, List.any_eq_true] at h ⊢
    rcases h with h | ⟨r, hr, hid⟩
    · exact .inl h
    · obtain ⟨r', hr', hsame⟩ := hids r hr
      exact .inr ⟨r', hr', hsame.trans hid⟩

theorem IterationRow.Holds.mono (h : IterationRow.Holds s r i)
    (hids : ∀ r ∈ s.iterations, ∃ r' ∈ s'.iterations, r'.id = r.id) :
    IterationRow.Holds s' r i :=
  ⟨h.row, h.named, hasParent_mono hids h.parent⟩

theorem AllHold.addIteration (h : AllHold s) (checked : checkIteration i s = .ok ()) :
    AllHold (addIteration now i s) := by
  have hids : ∀ r ∈ s.iterations, ∃ r' ∈ (Store.addIteration now i s).iterations, r'.id = r.id :=
    fun r hr => ⟨r, List.mem_append_left _ hr, rfl⟩
  obtain ⟨hname, -, hparent⟩ := checkIteration_eq_ok.1 checked
  intro r hr
  rcases List.mem_append.1 hr with hr | hr
  · obtain ⟨j, hj⟩ := h r hr
    exact ⟨j, hj.mono hids⟩
  · rw [List.mem_singleton.1 hr]
    exact ⟨i, rfl, hname, hasParent_mono hids hparent⟩

theorem AllHold.setIteration (h : AllHold s) (checked : checkIteration i s = .ok ()) :
    AllHold (setIteration i s) := by
  have hids : ∀ r ∈ s.iterations, ∃ r' ∈ (Store.setIteration i s).iterations, r'.id = r.id := by
    intro r hr
    have hid : r.id ∈ (Store.setIteration i s).iterations.map (·.id) := by
      rw [ids_setIteration]
      exact List.mem_map_of_mem hr
    exact List.mem_map.1 hid
  obtain ⟨hname, -, hparent⟩ := checkIteration_eq_ok.1 checked
  intro r hr
  rcases mem_setIteration hr with ⟨created, rfl⟩ | ⟨hr, -⟩
  · exact ⟨i, rfl, hname, hasParent_mono hids hparent⟩
  · obtain ⟨j, hj⟩ := h r hr
    exact ⟨j, hj.mono hids⟩

theorem AllHold.effect {op : Operation} {a : Answer} (h : AllHold s)
    (heffect : Operation.Effect s op a s') : AllHold s' := by
  have hsame {s' : Store} (heq : s'.iterations = s.iterations) : AllHold s' := by
    intro r hr
    rw [heq] at hr
    obtain ⟨i, hi⟩ := h r hr
    exact ⟨i, hi.mono fun r hr => ⟨r, heq ▸ hr, rfl⟩⟩
  cases heffect with
  | seedTypes grows | createType grows =>
    obtain ⟨rows, rfl⟩ := grows.exists_append
    exact hsame rfl
  | createIteration _ _ checked | createChild _ _ _ checked => exact h.addIteration checked
  | saveIteration _ checked | moveIteration _ checked => exact h.setIteration checked
  | looks | createIdentity | createItem | saveItem | assignItem | deleteItem => exact hsame rfl

theorem AllHold.run (ops : List Operation) : AllHold (run ops empty).2 := by
  refine run_induction ops (fun r hr => ?_) fun _ => AllHold.effect
  cases hr

/-! ## Looking up iterations -/

/-- A row that holds an iteration fails to be read exactly if a moment lies beyond the calendar. -/
theorem IterationRow.Holds.faulty_read_iff (h : IterationRow.Holds s r i) :
    Faulty (IterationRow.read r) ↔ IterationRow.BeyondCalendar r := by
  have hbeyond : IterationRow.BeyondCalendar r ↔ Faulty (readOptional storedMoment r.start) ∨
      Faulty (readOptional storedMoment r.stop) := by
    simp only [BeyondCalendar, faulty_readOptional, or_and_right, exists_or]
  rw [hbeyond, h.row, read_rowOf]
  show _ ↔ Faulty (readOptional storedMoment (i.startAt.map Moment.micros)) ∨
    Faulty (readOptional storedMoment (i.endAt.map Moment.micros))
  rw [faulty_bind]
  rcases readOptional_cases (i.startAt.map Moment.micros) with hstart | ⟨start, hstart⟩
  · exact iff_of_true (.inl hstart) (.inl hstart)
  · simp [hstart]

/-- What is read from a row is what it holds, but for the moments. -/
theorem IterationRow.Holds.of_read (h : IterationRow.Holds s r i)
    (hread : IterationRow.read r = .ok j) :
    ∃ start stop, j = { i with startAt := start, endAt := stop } := by
  rw [h.row, read_rowOf, bind_eq_ok] at hread
  obtain ⟨start, -, hread⟩ := hread
  obtain ⟨stop, -, hread⟩ := bind_eq_ok.1 hread
  cases hread
  exact ⟨start, stop, rfl⟩

theorem IterationRow.Holds.read_cases (h : IterationRow.Holds s r i) :
    Faulty (IterationRow.read r) ∨ ∃ j, IterationRow.read r = .ok j := by
  rw [h.row, read_rowOf]
  rcases readOptional_cases (i.startAt.map Moment.micros) with hstart | ⟨start, hstart⟩
  · exact .inl (faulty_bind.2 (.inl hstart))
  · rcases readOptional_cases (i.endAt.map Moment.micros) with hstop | ⟨stop, hstop⟩
    · exact .inl (faulty_bind.2 (.inr ⟨start, hstart, faulty_bind.2 (.inl hstop)⟩))
    · rw [hstart, hstop]
      exact .inr ⟨_, rfl⟩

theorem IterationRow.Holds.exists_read_iff (h : IterationRow.Holds s r i) :
    (∃ j, IterationRow.read r = .ok j) ↔ ¬ IterationRow.BeyondCalendar r := by
  rw [← h.faulty_read_iff]
  constructor
  · rintro ⟨j, hj⟩
    rw [hj]
    exact not_faulty_ok j
  · exact h.read_cases.resolve_left

theorem findIteration_of_mem (hdistinct : (s.iterations.map (·.id)).Nodup) (hr : r ∈ s.iterations)
    (hid : r.id = id.text) : findIteration id s = (IterationRow.read r).map some := by
  have hfind : s.iterations.find? (·.id = id.text) = some r := by
    refine find?_eq_some_of_unique hr (by simpa using hid) fun q hq hfound => ?_
    have hqid : q.id = id.text := by simpa using hfound
    exact List.inj_on_of_nodup_map hdistinct hq hr (hqid.trans hid.symm)
  rw [findIteration, hfind]

theorem exists_row_of_findIteration (h : findIteration id s = .ok (some i)) :
    ∃ r ∈ s.iterations, r.id = id.text ∧ IterationRow.read r = .ok i := by
  rw [findIteration.eq_def] at h
  split at h
  · cases h
  next r hfind =>
    obtain ⟨j, hread, ⟨⟩⟩ := map_eq_ok.1 h
    exact ⟨r, List.mem_of_find?_eq_some hfind, by simpa using List.find?_some hfind, hread⟩

theorem faulty_findIteration (h : AllHold s) (hdistinct : (s.iterations.map (·.id)).Nodup) :
    Faulty (findIteration id s) ↔
      ∃ r ∈ s.iterations, r.id = id.text ∧ IterationRow.BeyondCalendar r := by
  rw [findIteration.eq_def]
  cases hfind : s.iterations.find? (·.id = id.text) with
  | none =>
    have hnone : ∀ r ∈ s.iterations, r.id ≠ id.text := by simpa using hfind
    refine iff_of_false (not_faulty_ok _) ?_
    rintro ⟨r, hr, hid, -⟩
    exact hnone r hr hid
  | some q =>
    have hq := List.mem_of_find?_eq_some hfind
    have hqid : q.id = id.text := by simpa using List.find?_some hfind
    obtain ⟨i, hi⟩ := h q hq
    rw [faulty_map, hi.faulty_read_iff]
    constructor
    · intro hbeyond
      exact ⟨q, hq, hqid, hbeyond⟩
    · rintro ⟨r, hr, hid, hbeyond⟩
      rwa [← List.inj_on_of_nodup_map hdistinct hr hq (hid.trans hqid.symm)]

/-- What is found is what a row holds, but for the moments. -/
theorem holds_of_findIteration (h : AllHold s) (hfound : findIteration id s = .ok (some j)) :
    hasContent j.name = true ∧ hasParent j s = true ∧ ∃ r ∈ s.iterations, r.id = j.id.text := by
  obtain ⟨q, hq, -, hread⟩ := exists_row_of_findIteration hfound
  obtain ⟨i, hi⟩ := h q hq
  obtain ⟨start, stop, rfl⟩ := hi.of_read hread
  refine ⟨hi.named, hi.parent, q, hq, ?_⟩
  rw [hi.row]
  rfl

/-! ## Identities -/

/-- Every identity is kept under the text of its id. -/
def AllIdentified (s : Store) : Prop := ∀ r ∈ s.identities, ∃ id : Uuid, r.id = id.text

theorem AllIdentified.run (ops : List Operation) : AllIdentified (run ops empty).2 := by
  refine run_induction ops (fun r hr => ?_) fun _ h heffect => ?_
  · cases hr
  cases heffect with
  | seedTypes grows | createType grows =>
    obtain ⟨rows, rfl⟩ := grows.exists_append
    exact h
  | @createIdentity id =>
    intro r hr
    rcases List.mem_append.1 hr with hr | hr
    · exact h r hr
    · rw [List.mem_singleton.1 hr]
      exact ⟨id, rfl⟩
  | looks | createItem | saveItem | assignItem | deleteItem | createIteration | createChild
  | saveIteration | moveIteration =>
    exact h

theorem exists_read_identity (h : AllIdentified s) {r : IdentityRow} (hr : r ∈ s.identities) :
    ∃ who, IdentityRow.read r = .ok who := by
  obtain ⟨id, hid⟩ := h r hr
  exact ⟨⟨id, r.fullName, r.imageUrl⟩, by rw [IdentityRow.read, hid, id.read_text]⟩

end Backlog.Store
