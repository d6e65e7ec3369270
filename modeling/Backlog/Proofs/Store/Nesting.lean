import Backlog.Command.Script
import Backlog.Proofs.Calendar.Text
import Backlog.Proofs.Store.Causes
import Mathlib.Data.List.Induction

/-!
# How iterations are nested

A new iteration stands at the top of its space or under one that is already there, in the space of
that one. Moving it writes every column of its row again, from what was read from the row, and
reading loses nothing that a row holds (`rowOf_of_read`). So its state is all that changes.

**Main statement (`iterations_nested`).** After every run in which no iteration is saved as a whole,
parents are there, in the same space and made earlier, and following them ends at the top. Every row
is as it was made but for its state, which only moving changes. The commands ask for nothing else.
Saving an iteration as a whole may write any parent and any space to its row.
-/

namespace Backlog.Store

variable {s s' : Store} {op : Operation} {ops : List Operation} {i j : Iteration} {now : Int}
  {r top : IterationRow} {rows : List IterationRow} {id : Uuid} {state : IterationState}

/-! ## Following parents -/

/-- Following parents from a row ends at one that has none. -/
inductive Climbs (rows : List IterationRow) : IterationRow → IterationRow → Prop
  | top {r : IterationRow} (parent : r.parent = none) : Climbs rows r r
  | up {r q top : IterationRow} (mem : q ∈ rows) (parent : r.parent = some q.id)
    (more : Climbs rows q top) : Climbs rows r top

/-- The parent of a row, if it has one, is among the rows and in the space of the row. -/
def ParentAmong (rows : List IterationRow) (r : IterationRow) : Prop :=
  ∀ p, r.parent = some p → ∃ q ∈ rows, q.id = p ∧ q.space = r.space

/-- Ids are distinct, parents are there in the same space, and following them ends in it. -/
structure Nested (rows : List IterationRow) : Prop where
  distinct : (rows.map (·.id)).Nodup
  parent : ∀ r ∈ rows, ParentAmong rows r
  climbs : ∀ r ∈ rows, ∃ top ∈ rows, Climbs rows r top ∧ top.space = r.space

theorem Climbs.append (h : Climbs rows r top) (more : List IterationRow) :
    Climbs (rows ++ more) r top := by
  induction h with
  | top parent => exact .top parent
  | up mem parent _ ih => exact .up (List.mem_append_left _ mem) parent ih

theorem ParentAmong.append (h : ParentAmong rows r) (more : List IterationRow) :
    ParentAmong (rows ++ more) r := by
  intro p hp
  obtain ⟨q, hq, hid, hspace⟩ := h p hp
  exact ⟨q, List.mem_append_left _ hq, hid, hspace⟩

theorem Nested.append (h : Nested rows) (fresh : ∀ q ∈ rows, q.id ≠ r.id)
    (hr : ParentAmong rows r) : Nested (rows ++ [r]) := by
  have hclimbs {q : IterationRow} (hq : q ∈ rows) :
      ∃ top ∈ rows ++ [r], Climbs (rows ++ [r]) q top ∧ top.space = q.space := by
    obtain ⟨top, htop, hclimb, hspace⟩ := h.climbs q hq
    exact ⟨top, List.mem_append_left _ htop, hclimb.append _, hspace⟩
  refine ⟨?_, fun q hq => ?_, fun q hq => ?_⟩
  · rw [List.map_append, List.map_singleton, ← List.concat_eq_append, List.nodup_concat]
    exact ⟨by simpa using fresh, h.distinct⟩
  · rcases List.mem_append.1 hq with hq | hq
    · exact (h.parent q hq).append _
    · rw [List.mem_singleton.1 hq]
      exact hr.append _
  · rcases List.mem_append.1 hq with hq | hq
    · exact hclimbs hq
    rw [List.mem_singleton.1 hq]
    cases hparent : r.parent with
    | none => exact ⟨r, by simp, .top hparent, rfl⟩
    | some p =>
      obtain ⟨q, hq, hid, hspace⟩ := hr p hparent
      obtain ⟨top, htop, hclimb, hspace'⟩ := hclimbs hq
      refine ⟨top, htop, ?_, hspace'.trans hspace⟩
      exact .up (List.mem_append_left _ hq) (hparent.trans (congrArg some hid.symm)) hclimb

/-! ## Moving -/

/-- The row in another state, if it is the one under the id. -/
def moved (id : Uuid) (state : IterationState) (r : IterationRow) : IterationRow :=
  if r.id = id.text then { r with state := state.name } else r

section Moved

variable (id : Uuid) (state : IterationState) (r : IterationRow)

/-- Moving changes nothing but the state. -/
theorem exists_moved_eq : ∃ name, moved id state r = { r with state := name } := by
  rw [moved]
  split
  · exact ⟨_, rfl⟩
  · exact ⟨r.state, rfl⟩

@[simp]
theorem id_moved : (moved id state r).id = r.id := by
  obtain ⟨name, heq⟩ := exists_moved_eq id state r
  rw [heq]

@[simp]
theorem space_moved : (moved id state r).space = r.space := by
  obtain ⟨name, heq⟩ := exists_moved_eq id state r
  rw [heq]

@[simp]
theorem parent_moved : (moved id state r).parent = r.parent := by
  obtain ⟨name, heq⟩ := exists_moved_eq id state r
  rw [heq]

end Moved

theorem Climbs.map_moved (h : Climbs rows r top) (id : Uuid) (state : IterationState) :
    Climbs (rows.map (moved id state)) (moved id state r)
      (moved id state top) := by
  induction h with
  | top parent => exact .top (by simpa using parent)
  | up mem parent _ ih => exact .up (List.mem_map_of_mem mem) (by simpa using parent) ih

theorem Nested.map_moved (h : Nested rows) (id : Uuid) (state : IterationState) :
    Nested (rows.map (moved id state)) := by
  refine ⟨?_, fun r' hr' p hp => ?_, fun r' hr' => ?_⟩
  · have hids : (fun r : IterationRow => r.id) ∘ moved id state = fun r => r.id := by
      funext r
      exact id_moved id state r
    rw [List.map_map, hids]
    exact h.distinct
  · obtain ⟨r, hr, rfl⟩ := List.mem_map.1 hr'
    obtain ⟨q, hq, hid, hspace⟩ := h.parent r hr p (by simpa using hp)
    exact ⟨_, List.mem_map_of_mem hq, by simpa using hid, by simpa using hspace⟩
  · obtain ⟨r, hr, rfl⟩ := List.mem_map.1 hr'
    obtain ⟨top, htop, hclimb, hspace⟩ := h.climbs r hr
    exact ⟨_, List.mem_map_of_mem htop, hclimb.map_moved id state, by simpa using hspace⟩

/-! ## Rows read and written again -/

theorem micros_of_readOptional {us : Option Int} {p : Option Moment}
    (h : readOptional storedMoment us = .ok p) : p.map Moment.micros = us := by
  cases us with
  | none =>
    cases h
    rfl
  | some n =>
    obtain ⟨t, hread, rfl⟩ := map_eq_ok.1 h
    rw [storedMoment] at hread
    split at hread
    next hmoment =>
      cases hread
      exact congrArg some (Moment.micros_of_ofMicros? hmoment)
    · cases hread

/-- What is read from a row and written again gives the row. -/
theorem IterationRow.Holds.rowOf_of_read (h : IterationRow.Holds s r i)
    (hread : IterationRow.read r = .ok j) : rowOf j r.created = r := by
  have hrow := h.row
  generalize r.created = created at hrow ⊢
  subst hrow
  rw [read_rowOf, bind_eq_ok] at hread
  obtain ⟨start, hstart, hread⟩ := hread
  obtain ⟨stop, hstop, hread⟩ := bind_eq_ok.1 hread
  cases hread
  simp only [rowOf, micros_of_readOptional hstart, micros_of_readOptional hstop]

theorem IterationRow.Holds.keys_of_read (h : IterationRow.Holds s r i)
    (hread : IterationRow.read r = .ok j) : j.id.text = r.id ∧ j.spaceId.text = r.space := by
  have hrow := h.rowOf_of_read hread
  constructor
  · calc j.id.text
      _ = (rowOf j r.created).id := rfl
      _ = r.id := by rw [hrow]
  · calc j.spaceId.text
      _ = (rowOf j r.created).space := rfl
      _ = r.space := by rw [hrow]

theorem rowOf_state (i : Iteration) (state : IterationState) (created : Int) :
    rowOf { i with state := state } created = { rowOf i created with state := state.name } := rfl

/-- Writing an iteration back in another state moves its row. -/
theorem setIteration_eq_moved (h : AllHold s) (hdistinct : (s.iterations.map (·.id)).Nodup)
    (hfound : findIteration id s = .ok (some i)) :
    (setIteration { i with state := state } s).iterations =
      s.iterations.map (moved id state) := by
  obtain ⟨q, hq, hid, hread⟩ := exists_row_of_findIteration hfound
  obtain ⟨i₀, hi₀⟩ := h q hq
  have hrow := hi₀.rowOf_of_read hread
  have hsame : i.id.text = id.text := (hi₀.keys_of_read hread).1.trans hid
  refine List.map_congr_left fun r hr => ?_
  by_cases hrid : r.id = id.text
  · obtain rfl := List.inj_on_of_nodup_map hdistinct hr hq (hrid.trans hid.symm)
    rw [moved, if_pos hrid, if_pos (hrid.trans hsame.symm), rowOf_state, hrow]
  · rw [moved, if_neg hrid]
    exact if_neg fun hheld => hrid (hheld.trans hsame)

/-! ## Operations -/

/-- An operation that writes every column of an iteration as the caller gives it. -/
def Operation.Rewrites : Operation → Prop
  | .saveIteration _ => True
  | _ => False

/-- The iteration that an operation made, if it was one that makes an iteration and it succeeded. -/
def Operation.madeIteration? : Operation → Except Error Answer → Option Iteration
  | .createIteration _ _ _, .ok (.iteration i) => some i
  | .createChild _ _ _ _, .ok (.iteration i) => some i
  | _, _ => none

/-- The row after an operation, by what that answered. -/
def Operation.moves (r : IterationRow) : Operation → Except Error Answer → IterationRow
  | .moveIteration id state, .ok _ => moved id state r
  | _, _ => r

/-- What an operation that does not rewrite iterations does to their rows: it moves some, and it may
add one. -/
inductive Operation.Nests (s : Store) (op : Operation) (a : Except Error Answer) (s' : Store) : Prop
  | moves (made : op.madeIteration? a = none)
    (rows : s'.iterations = s.iterations.map (op.moves · a))
  | makes {i : Iteration} {now : Int} (made : op.madeIteration? a = some i) (new : i.state = .new)
    (fresh : ∀ r ∈ s.iterations, r.id ≠ i.id.text) (parent : ParentAmong s.iterations (rowOf i now))
    (rows : s'.iterations = s.iterations.map (op.moves · a) ++ [rowOf i now])

theorem Operation.nests_run (hop : ¬ op.Rewrites) (h : AllHold s)
    (hdistinct : (s.iterations.map (·.id)).Nodup) : op.Nests s (op.run s).1 (op.run s).2 := by
  have hkeeps {a : Except Error Answer} {s' : Store} (hnone : op.madeIteration? a = none)
      (hafter : ∀ r : IterationRow, op.moves r a = r) (hrows : s'.iterations = s.iterations) :
      op.Nests s a s' := by
    refine .moves hnone ?_
    simp [hafter, hrows]
  rcases op.run_cases s with ⟨e, he⟩ | ⟨a, s', hs', heffect⟩
  · rw [he]
    exact hkeeps (by cases op <;> rfl) (fun r => by cases op <;> rfl) rfl
  rw [hs']
  cases heffect with
  | looks hlooks =>
    cases op with
    | createIteration | createChild | moveIteration => exact hlooks.elim
    | _ => exact hkeeps rfl (fun _ => rfl) rfl
  | seedTypes grows | createType grows =>
    obtain ⟨rows, rfl⟩ := grows.exists_append
    exact hkeeps rfl (fun _ => rfl) rfl
  | createIdentity | createItem | saveItem | assignItem | deleteItem =>
    exact hkeeps rfl (fun _ => rfl) rfl
  | createIteration drafted fresh =>
    obtain ⟨-, rfl⟩ := draft_eq_ok.1 drafted
    refine .makes rfl rfl fresh (fun p hp => ?_) (congrArg (· ++ _) (List.map_id' _).symm)
    cases hp
  | @createChild _ _ _ _ above _ named drafted fresh =>
    obtain ⟨-, rfl⟩ := draft_eq_ok.1 drafted
    refine .makes rfl rfl fresh (fun p hp => ?_) (congrArg (· ++ _) (List.map_id' _).symm)
    -- The parent is what was read from its row.
    obtain ⟨q, hq, -, hread⟩ := exists_row_of_findIteration named
    obtain ⟨i₀, hi₀⟩ := h q hq
    obtain ⟨hid, hspace⟩ := hi₀.keys_of_read hread
    have hp : some above.id.text = some p := hp
    exact ⟨q, hq, hid.symm.trans (Option.some.inj hp), hspace.symm⟩
  | saveIteration => exact absurd trivial hop
  | moveIteration named => exact .moves rfl (setIteration_eq_moved h hdistinct named)

/-- An operation moves no row, or it moves the one under an id to a state. -/
theorem Operation.moves_cases (op : Operation) (a : Except Error Answer) :
    (∀ r, op.moves r a = r) ∨ ∃ id state, ∀ r, op.moves r a = moved id state r := by
  cases op with
  | moveIteration id state =>
    cases a with
    | error e => exact .inl fun _ => rfl
    | ok a => exact .inr ⟨id, state, fun _ => rfl⟩
  | _ => exact .inl fun _ => rfl

theorem Nested.map_moves (h : Nested rows) (op : Operation) (a : Except Error Answer) :
    Nested (rows.map (op.moves · a)) := by
  rcases op.moves_cases a with hsame | ⟨id, state, hmoved⟩
  · simpa [hsame] using h
  · simpa only [hmoved] using h.map_moved id state

/-- What moves leaves the rows nested as they were, and so does a new row in the space of its
parent. -/
theorem Nested.nests {a : Except Error Answer} (h : Nested s.iterations)
    (hnests : op.Nests s a s') : Nested s'.iterations := by
  have hmoved := h.map_moves op a
  cases hnests with
  | moves _ rows =>
    rw [rows]
    exact hmoved
  | makes made _ fresh parent rows =>
    -- What makes an iteration moves none.
    have hsame (r : IterationRow) : op.moves r a = r := by
      cases op <;> first | rfl | cases made
    simp only [hsame, List.map_id'] at rows
    rw [rows]
    exact h.append fresh parent

/-! ## Runs -/

/-- The operation, after a run of others, made the iteration of a row, with its parent there by
then. What followed changed the state of the row alone. -/
structure MadeBy (before : List Operation) (op : Operation) (i : Iteration) (r : IterationRow) :
    Prop where
  made : op.madeIteration? (op.run (run before empty).2).1 = some i
  new : i.state = .new
  fresh : ∀ q ∈ (run before empty).2.iterations, q.id ≠ r.id
  parent : ParentAmong (run before empty).2.iterations r
  row : { r with state := i.state.name } = rowOf i r.created

/-- The iteration of the row was made in the run. -/
def Made (ops : List Operation) (r : IterationRow) : Prop :=
  ∃ before op after i, ops = before ++ op :: after ∧ MadeBy before op i r

theorem MadeBy.moves {before : List Operation} {maker : Operation} (h : MadeBy before maker i r)
    (op : Operation) (a : Except Error Answer) : MadeBy before maker i (op.moves r a) := by
  rcases op.moves_cases a with hsame | ⟨id, state, hmoved⟩
  · rwa [hsame]
  obtain ⟨made, new, fresh, parent, row⟩ := h
  refine ⟨made, new, ?_, ?_, ?_⟩
  · simpa [hmoved] using fresh
  · simpa [ParentAmong, hmoved] using parent
  · obtain ⟨name, heq⟩ := exists_moved_eq id state r
    rw [hmoved, heq]
    exact row

theorem run_snoc (ops : List Operation) (op : Operation) (s : Store) :
    (run (ops ++ [op]) s).2 = (op.run (run ops s).2).2 := by
  rw [run_append_cons]
  rfl

theorem nests_after (ops : List Operation) (hop : ¬ op.Rewrites) :
    op.Nests (run ops empty).2 (op.run (run ops empty).2).1 (op.run (run ops empty).2).2 :=
  op.nests_run hop (AllHold.run ops) (OneStarted.run ops).distinct

theorem Nested.run (h : ∀ op ∈ ops, ¬ op.Rewrites) : Nested (run ops empty).2.iterations := by
  induction ops using List.reverseRecOn with
  | nil => exact ⟨List.nodup_nil, by simp [Store.run, empty], by simp [Store.run, empty]⟩
  | append_singleton ops op ih =>
    rw [run_snoc]
    have hnests := nests_after ops (h op (by simp))
    exact (ih fun op hop => h op (List.mem_append_left _ hop)).nests hnests

theorem made_of_mem (h : ∀ op ∈ ops, ¬ op.Rewrites) (hr : r ∈ (run ops empty).2.iterations) :
    Made ops r := by
  induction ops using List.reverseRecOn generalizing r with
  | nil => cases hr
  | append_singleton ops op ih =>
    rw [run_snoc] at hr
    have hold {r a} (hr : r ∈ (run ops empty).2.iterations.map (op.moves · a)) :
        Made (ops ++ [op]) r := by
      obtain ⟨q, hq, rfl⟩ := List.mem_map.1 hr
      obtain ⟨before, maker, after, i, rfl, hmade⟩ :=
        ih (fun op hop => h op (List.mem_append_left _ hop)) hq
      exact ⟨before, maker, after ++ [op], i, by simp, hmade.moves op a⟩
    cases nests_after ops (h op (by simp)) with
    | moves _ rows =>
      rw [rows] at hr
      exact hold hr
    | @makes i now made new fresh parent rows =>
      rw [rows] at hr
      rcases List.mem_append.1 hr with hr | hr
      · exact hold hr
      rw [List.mem_singleton.1 hr]
      exact ⟨ops, op, [], i, rfl, made, new, fresh, parent, rfl⟩

/-! ## Commands -/

/-- Whatever a script is answered, it asks for such operations only. -/
def Script.Asks {α : Type} (P : Operation → Prop) : Script α → Prop
  | .done _ => True
  | .ask op next => P op ∧ ∀ answer, (next answer).Asks P

/-- What a script leaves is what the operations leave that it asked for. -/
theorem Script.Asks.exists_run {α : Type} {P : Operation → Prop} {script : Script α}
    (h : script.Asks P) (s : Store) :
    ∃ ops, (∀ op ∈ ops, P op) ∧ (script.run s).2 = (Store.run ops s).2 := by
  induction script generalizing s with
  | done result => exact ⟨[], by simp, rfl⟩
  | ask op next ih =>
    obtain ⟨hop, hnext⟩ := h
    obtain ⟨ops, hops, hrun⟩ := ih (op.run s).1 (hnext _) (op.run s).2
    exact ⟨op :: ops, by simpa using ⟨hop, hops⟩, hrun⟩

theorem asks_withValue {α : Type} {P : Operation → Prop} {v : Except Failure α}
    {next : α → Command.ResultScript} (h : ∀ x, (next x).Asks P) :
    (Command.withValue v next).Asks P := by
  cases v with
  | ok x => exact h x
  | error f => trivial

/-- No command saves an iteration as a whole. -/
theorem asks_script (c : Command) (paging : PagingConfig) (fresh : Fresh) :
    (c.script paging fresh).Asks (¬ ·.Rewrites) := by
  have hlast {op : Operation} {view : View} (hop : ¬ op.Rewrites) :
      (Command.askLast op view).Asks (¬ ·.Rewrites) := ⟨hop, fun _ => trivial⟩
  cases c with
  | createType name extended fields => exact asks_withValue fun _ => hlast id
  | createItem typeName creator fields => exact asks_withValue fun _ => hlast id
  | listItems filter offset limit => exact asks_withValue fun _ => hlast id
  | updateItem given version typeName fields =>
    refine ⟨id, fun answer => ?_⟩
    dsimp only
    split
    · trivial
    · exact asks_withValue fun _ => hlast id
    · trivial
  | createIteration name space parent description startAt endAt =>
    cases parent with
    | none => exact hlast id
    | some parent => exact hlast id
  | _ => exact hlast id

/-- **Iterations are nested as they were made.** After every run in which no iteration is saved as a
whole, every parent is there, in the same space, and following parents ends at the top of the space;
every iteration was made by an operation of the run, new and with its parent there by then, and its
row has changed in its state alone. Whatever came before, an operation that does not save iterations
as a whole only moves rows, each to the state that it was asked for, and adds new ones. Such
operations are all that the commands ask for. -/
theorem iterations_nested :
    (∀ ops : List Operation, (∀ op ∈ ops, ¬ op.Rewrites) →
      Nested (run ops empty).2.iterations ∧ ∀ r ∈ (run ops empty).2.iterations, Made ops r) ∧
    (∀ (before : List Operation) (op : Operation), ¬ op.Rewrites →
      op.Nests (run before empty).2 (op.run (run before empty).2).1
        (op.run (run before empty).2).2) ∧
    ∀ (c : Command) (paging : PagingConfig) (fresh : Fresh) (s : Store),
      ∃ ops, (∀ op ∈ ops, ¬ op.Rewrites) ∧ ((c.script paging fresh).run s).2 = (run ops s).2 :=
  ⟨fun _ hops => ⟨Nested.run hops, fun _ => made_of_mem hops⟩, fun before _ hop =>
    nests_after before hop, fun c paging fresh s => (asks_script c paging fresh).exists_run s⟩

/-- A child of a child, each made with another space at hand, and moves between them. -/
def nestedRun : List Operation :=
  let top : Uuid := ⟨2, by decide⟩
  let child : Uuid := ⟨3, by decide⟩
  let grandchild : Uuid := ⟨4, by decide⟩
  [.createIteration top 0 ⟨⟨10, by decide⟩, "top", none, none, none⟩,
    .moveIteration top .start,
    .createChild child 1 top ⟨⟨11, by decide⟩, "child", some "below", none, none⟩,
    .moveIteration top .close,
    .createChild grandchild 2 child ⟨⟨12, by decide⟩, "grandchild", none, none, none⟩,
    .moveIteration grandchild .start]

theorem iterations_nested_nestedRun :
    (run nestedRun empty).2.iterations.map (·.state) = ["close", "new", "start"] ∧
      Nested (run nestedRun empty).2.iterations ∧
      ∀ r ∈ (run nestedRun empty).2.iterations, Made nestedRun r := by
  refine ⟨by decide +kernel, iterations_nested.1 nestedRun ?_⟩
  simp [nestedRun, Operation.Rewrites]

end Backlog.Store
