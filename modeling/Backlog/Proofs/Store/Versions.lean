import Backlog.Proofs.Number.Digits
import Backlog.Proofs.Store.Change
import Mathlib.Data.List.Nodup

/-!
# Versions count writes

**Main statement (`version_counts_writes`).** After every run the version of an item is the number
of writes to it that succeeded, an item that has the same version at two points of a run has the
same content there, and a write that demands the version of an earlier look succeeds only if nobody
has written in between.

One operation raises the version of a row by one or leaves the row's content alone (`after_run`);
this adds up over a run (`after_runs`). Ids are given in order and never again, so a row of a later
store continues the row with its id in an earlier one.
-/

namespace Backlog

/-! ## Texts of versions -/

theorem Decimal.toDigits_injective {m n : Nat} (h : Nat.toDigits 10 m = Nat.toDigits 10 n) :
    m = n := by
  rw [← ofDigits_toDigits m, h, ofDigits_toDigits]

theorem Decimal.toDigits_ne_minus (m : Nat) (cs : List Char) :
    Nat.toDigits 10 m ≠ '-' :: cs := by
  intro h
  have hdigit := IsDigits.toDigits m '-' (h ▸ List.mem_cons_self)
  cases hdigit

/-- Different integers are written differently. -/
theorem Json.intChars_injective {m n : Int} (h : intChars m = intChars n) : m = n := by
  cases m with
  | ofNat a =>
    cases n with
    | ofNat b => rw [Decimal.toDigits_injective h]
    | negSucc b => exact absurd h (Decimal.toDigits_ne_minus a _)
  | negSucc a =>
    cases n with
    | ofNat b => exact absurd h.symm (Decimal.toDigits_ne_minus b _)
    | negSucc b =>
      have hab := Decimal.toDigits_injective (List.cons.inj h).2
      omega

namespace Store

variable {s s' : Store} {op : Operation} {k : Nat}

/-! ## Writes -/

namespace Operation

/-- The item that a save or a change of the assignee is for. -/
def target? : Operation → Option Nat
  | saveItem _ _ item => itemId? item.id
  | assignItem _ id _ _ => itemId? id
  | _ => none

/-- The operation demands that the caller has seen a version. -/
def Demands (version : Int) : Operation → Prop
  | saveItem _ checked item => checked = true ∧ item.version = version
  | assignItem _ _ given _ => given = String.ofList (Json.intChars version)
  | _ => False

/-- The operation writes to an item, and succeeds. -/
def Writes (k : Nat) (op : Operation) (s : Store) : Prop :=
  op.target? = some k ∧ (op.run s).1.toBool = true

instance (k : Nat) (op : Operation) (s : Store) : Decidable (op.Writes k s) := by
  unfold Writes
  infer_instance

end Operation

/-- How many operations of a run write to an item and succeed. -/
def writesTo (k : Nat) : List Operation → Store → Nat
  | [], _ => 0
  | op :: ops, s => (if op.Writes k s then 1 else 0) + writesTo k ops (op.run s).2

/-! ## Numbered items -/

/-- Items are numbered from one in the order in which they were made. -/
def Numbered (s : Store) : Prop := s.items.map (·.id) = List.range' 1 s.lastItem

theorem numbered_empty : Numbered empty := rfl

theorem Numbered.nodup (h : Numbered s) : (s.items.map (·.id)).Nodup := by
  rw [h]
  exact List.nodup_range'

theorem Numbered.eq_of_id (h : Numbered s) {r q : ItemRow} (hr : r ∈ s.items) (hq : q ∈ s.items)
    (hid : r.id = q.id) : r = q :=
  List.inj_on_of_nodup_map h.nodup hr hq hid

theorem Numbered.id_le (h : Numbered s) {r : ItemRow} (hr : r ∈ s.items) : r.id ≤ s.lastItem := by
  have hid : r.id ∈ List.range' 1 s.lastItem := h ▸ List.mem_map_of_mem hr
  have := List.mem_range'_1.1 hid
  omega

theorem Numbered.addItem (h : Numbered s) (typeName text : String) (now : Int) :
    Numbered (addItem typeName text now s) := by
  simp only [Numbered, Store.addItem, List.map_append, List.map_cons, List.map_nil,
    List.range'_1_concat] at h ⊢
  rw [h, Nat.add_comm]

theorem Numbered.mapItem (h : Numbered s) {f : ItemRow → ItemRow} (hf : ∀ r, (f r).id = r.id) :
    Numbered (mapItem k f s) := by
  rw [Numbered, Store.mapItem, List.map_map, ← h]
  refine List.map_congr_left fun r _ => ?_
  by_cases hid : r.id = k
  · simp [hid, hf]
  · simp [hid]

theorem Numbered.effect {a : Answer} (h : Numbered s) (heffect : Operation.Effect s op a s') :
    Numbered s' := by
  cases heffect with
  | seedTypes grows | createType grows =>
    obtain ⟨rows, rfl⟩ := grows.exists_append
    exact h
  | createItem => exact h.addItem _ _ _
  | saveItem | assignItem | deleteItem => exact h.mapItem fun _ => rfl
  | looks | createIdentity | createIteration | createChild | saveIteration | moveIteration =>
    exact h

theorem Numbered.run (h : Numbered s) (ops : List Operation) : Numbered (run ops s).2 :=
  run_induction ops h fun _ => Numbered.effect

/-! ## One operation -/

/-- A row so many writes after an earlier state of it. -/
structure ItemRow.After (r r' : ItemRow) (writes : Nat) : Prop where
  id : r'.id = r.id
  version : r'.version = r.version + writes
  same : writes = 0 → r'.typeName = r.typeName ∧ r'.fieldsText = r.fieldsText

theorem ItemRow.After.trans {r r' r'' : ItemRow} {m n : Nat} (h : ItemRow.After r r' m)
    (h' : ItemRow.After r' r'' n) : ItemRow.After r r'' (m + n) where
  id := h'.id.trans h.id
  version := by
    have hr := h.version
    have hr' := h'.version
    push_cast
    omega
  same hzero := by
    have hm := h.same (by omega)
    have hn := h'.same (by omega)
    exact ⟨hn.1.trans hm.1, hn.2.trans hm.2⟩

theorem ItemRow.After.refl (r : ItemRow) : ItemRow.After r r 0 :=
  ⟨rfl, by simp, fun _ => ⟨rfl, rfl⟩⟩

/-- The next version is one more; the version after the greatest cannot be stored. -/
theorem nextVersion_eq {v : Int} (h : 0 ≤ nextVersion v) : nextVersion v = v + 1 := by
  unfold nextVersion at h ⊢
  split at h
  · omega
  · rw [if_neg (by assumption)]

/-- A write replaces the content of its live row, the only one under its id, and no other row. -/
theorem after_written (h : Numbered s) {r r' : ItemRow} {typeName text : String} {now : Int}
    (live : findLive k s = .ok (some r)) (hversion : 0 ≤ nextVersion r.version)
    (hr' : r' ∈ (mapItem k (ItemRow.written typeName (nextVersion r.version) text now) s).items) :
    ∃ q ∈ s.items, ItemRow.After q r' (if q.id = k then 1 else 0) := by
  obtain ⟨q, hq, rfl⟩ := List.mem_map.1 hr'
  obtain ⟨hr, hrid, -⟩ := live_of_findLive live
  refine ⟨q, hq, ?_⟩
  by_cases hid : q.id = k
  · obtain rfl : q = r := h.eq_of_id hq hr (hid.trans hrid.symm)
    rw [if_pos hid, if_pos hid]
    exact ⟨rfl, nextVersion_eq hversion, by simp⟩
  · rw [if_neg hid, if_neg hid]
    exact .refl q

/-- A row after an operation is new and has version 0, or it continues an older one. -/
theorem after_run (h : Numbered s) {r' : ItemRow} (hr' : r' ∈ (op.run s).2.items) :
    (∃ r ∈ s.items, ItemRow.After r r' (if op.Writes r.id s then 1 else 0)) ∨
      (r'.version = 0 ∧ ¬ op.Writes r'.id s ∧ ∀ r ∈ s.items, r.id ≠ r'.id) := by
  rcases op.run_cases s with ⟨e, he⟩ | ⟨a, s', hs', heffect⟩
  · rw [he] at hr'
    refine .inl ⟨r', hr', ?_⟩
    rw [if_neg (by simp [Operation.Writes, he, Except.toBool])]
    exact .refl r'
  have hsuccess : (op.run s).1.toBool = true := by rw [hs']; rfl
  rw [hs'] at hr'
  cases heffect with
  | createItem =>
    simp only [addItem, List.mem_append, List.mem_singleton] at hr'
    rcases hr' with hr' | rfl
    · exact .inl ⟨r', hr', by simpa [Operation.Writes, Operation.target?] using .refl r'⟩
    · refine .inr ⟨rfl, by simp [Operation.Writes, Operation.target?], fun r hr => ?_⟩
      have := h.id_le hr
      simp only
      omega
  | saveItem hid live _ _ _ hversion =>
    obtain ⟨q, hq, hafter⟩ := after_written h live hversion hr'
    refine .inl ⟨q, hq, ?_⟩
    simpa [Operation.Writes, Operation.target?, hid, hsuccess, eq_comm] using hafter
  | assignItem hid live _ _ _ _ _ _ hversion =>
    obtain ⟨q, hq, hafter⟩ := after_written h live hversion hr'
    refine .inl ⟨q, hq, ?_⟩
    simpa [Operation.Writes, Operation.target?, hid, hsuccess, eq_comm] using hafter
  | deleteItem =>
    obtain ⟨q, hq, rfl⟩ := List.mem_map.1 hr'
    refine .inl ⟨q, hq, ?_⟩
    simp only [Operation.Writes, Operation.target?, reduceCtorEq, false_and, if_false]
    split
    · exact ⟨rfl, by simp [ItemRow.hidden], fun _ => ⟨rfl, rfl⟩⟩
    · exact .refl q
  | seedTypes grows | createType grows =>
    obtain ⟨rows, rfl⟩ := grows.exists_append
    exact .inl ⟨r', hr', by simpa [Operation.Writes, Operation.target?] using .refl r'⟩
  | createIdentity | createIteration | createChild | saveIteration | moveIteration =>
    exact .inl ⟨r', hr', by simpa [Operation.Writes, Operation.target?] using .refl r'⟩
  | looks hlooks =>
    refine .inl ⟨r', hr', ?_⟩
    rw [if_neg (by cases op <;> simp_all [Operation.Writes, Operation.target?, Operation.Looks])]
    exact .refl r'

/-! ## Runs -/

/-- Only a live item is written to. -/
theorem Operation.Writes.live (h : op.Writes k s) :
    ∃ r, findLive k s = .ok (some r) ∧ ∀ v, op.Demands v → r.version = v := by
  obtain ⟨htarget, hsuccess⟩ := h
  rcases op.run_cases s with ⟨e, he⟩ | ⟨a, s', -, heffect⟩
  · rw [he] at hsuccess
    cases hsuccess
  cases heffect with
  | saveItem hid live seen =>
    obtain rfl : _ = k := by simpa [target?, hid] using htarget
    exact ⟨_, live, fun v hv => (seen hv.1).trans hv.2⟩
  | assignItem hid live seen =>
    obtain rfl : _ = k := by simpa [target?, hid] using htarget
    exact ⟨_, live, fun v hv =>
      Json.intChars_injective (String.ofList_injective (seen.symm.trans hv))⟩
  | looks hlooks => cases op <;> simp_all [target?, Looks]
  | _ => simp [target?] at htarget

theorem Numbered.mem_ids (h : Numbered s) : (∃ r ∈ s.items, r.id = k) ↔ 1 ≤ k ∧ k ≤ s.lastItem := by
  rw [← List.mem_map, h, List.mem_range'_1]
  omega

theorem lastItem_le_run (op : Operation) (s : Store) : s.lastItem ≤ (op.run s).2.lastItem := by
  rcases op.run_cases s with ⟨e, he⟩ | ⟨a, s', hs', heffect⟩
  · simp [he]
  rw [hs']
  cases heffect with
  | seedTypes grows | createType grows =>
    obtain ⟨rows, rfl⟩ := grows.exists_append
    exact Nat.le_refl _
  | createItem => exact Nat.le_succ _
  | looks | createIdentity | saveItem | assignItem | deleteItem | createIteration | createChild
  | saveIteration | moveIteration => exact Nat.le_refl _

theorem Numbered.run_one (h : Numbered s) (op : Operation) : Numbered (op.run s).2 := h.run [op]

/-- A row after a run is of a new item, or it continues an older row. Either way its version counts
the writes of the run. -/
theorem after_runs (h : Numbered s) (ops : List Operation) {r' : ItemRow}
    (hr' : r' ∈ (run ops s).2.items) :
    (∃ r ∈ s.items, ItemRow.After r r' (writesTo r.id ops s)) ∨
      (r'.version = writesTo r'.id ops s ∧ ∀ r ∈ s.items, r.id ≠ r'.id) := by
  induction ops generalizing s with
  | nil => exact .inl ⟨r', hr', .refl r'⟩
  | cons op ops ih =>
    rcases ih (h.run_one op) hr' with ⟨q, hq, hafter⟩ | ⟨hversion, hnew⟩
    · rcases after_run h hq with ⟨r, hr, hone⟩ | ⟨hzero, hno, hnew⟩
      · refine .inl ⟨r, hr, ?_⟩
        rw [hone.id] at hafter
        exact hone.trans hafter
      · refine .inr ⟨?_, hafter.id ▸ hnew⟩
        rw [hafter.version, hafter.id, hzero, writesTo, if_neg hno]
        omega
    · -- no id gets lost, so what is new after the first operation is new before it
      have hold : ∀ r ∈ s.items, r.id ≠ r'.id := by
        intro r hr hid
        have hle := (h.mem_ids (k := r'.id)).1 ⟨r, hr, hid⟩
        have hlast := lastItem_le_run op s
        obtain ⟨q, hq, hqid⟩ := (h.run_one op).mem_ids.2 ⟨hle.1, Nat.le_trans hle.2 hlast⟩
        exact hnew q hq hqid
      refine .inr ⟨?_, hold⟩
      have hno : ¬ op.Writes r'.id s := by
        intro hwrites
        obtain ⟨r, hlive, -⟩ := hwrites.live
        obtain ⟨hr, hid, -⟩ := live_of_findLive hlive
        exact hold r hr hid
      rw [hversion, writesTo, if_neg hno, Nat.zero_add]

/-- Two rows of one item, before and after a run, are as many writes apart as the run made. -/
theorem after_of_id_eq (h : Numbered s) (ops : List Operation) {r r' : ItemRow}
    (hr : r ∈ s.items) (hr' : r' ∈ (run ops s).2.items) (hid : r.id = r'.id) :
    ItemRow.After r r' (writesTo r.id ops s) := by
  rcases after_runs h ops hr' with ⟨q, hq, hafter⟩ | ⟨-, hnew⟩
  · obtain rfl := h.eq_of_id hr hq (hid.trans hafter.id)
    exact hafter
  · exact absurd hid (hnew r hr)

/-- The version that a look at an item gives is that of its row. -/
theorem version_of_loadItem {id : String} {w : WorkItem} (hid : itemId? id = some k)
    (h : ((Operation.loadItem id).run s).1 = .ok (.item w)) :
    ∃ r ∈ s.items, r.id = k ∧ r.version = w.version := by
  have hrun : (Operation.loadItem id).run s =
      (.ok (.item w), ((Operation.loadItem id).run s).2) := by rw [← h]
  obtain ⟨w', hw', ⟨⟩⟩ := Action.map_runOn_eq_ok.1 hrun
  obtain ⟨-, k', r, t, hid', hlive, -, hshow⟩ := loadItem_runOn_eq_ok.1 hw'
  obtain rfl : k' = k := by simpa [hid] using hid'.symm
  obtain ⟨hr, hrid, -⟩ := live_of_findLive hlive
  obtain ⟨stored, -, hshow⟩ := bind_eq_ok.1 hshow
  obtain ⟨fields, -, hshow⟩ := bind_eq_ok.1 hshow
  cases hshow
  exact ⟨r, hr, hrid, rfl⟩

/-- **Versions count writes.** The version of an item is the number of successful writes to it. Two
points of a run at which it is the same show the same content. A write that demands the version of
an earlier look succeeds only if nobody has written since. -/
theorem version_counts_writes (before between : List Operation) :
    (∀ r ∈ (run (before ++ between) empty).2.items,
      r.version = writesTo r.id (before ++ between) empty) ∧
    (∀ r ∈ (run before empty).2.items, ∀ r' ∈ (run (before ++ between) empty).2.items,
      r.id = r'.id → r.version = r'.version →
        r.typeName = r'.typeName ∧ r.fieldsText = r'.fieldsText) ∧
    ∀ (id : String) (k : Nat) (w : WorkItem) (op : Operation),
      itemId? id = some k →
      ((Operation.loadItem id).run (run before empty).2).1 = .ok (.item w) →
      op.Demands w.version → op.Writes k (run (before ++ between) empty).2 →
        writesTo k between (run before empty).2 = 0 := by
  have hnumbered := numbered_empty.run before
  refine ⟨?_, ?_, ?_⟩
  · intro r hr
    rcases after_runs numbered_empty _ hr with ⟨q, hq, -⟩ | ⟨hversion, -⟩
    · cases hq
    · exact hversion
  · intro r hr r' hr' hid hversion
    rw [run_append] at hr'
    have h := after_of_id_eq hnumbered between hr hr' hid
    have hwrites := h.version
    have hzero : writesTo r.id between (run before empty).2 = 0 := by omega
    exact ⟨(h.same hzero).1.symm, (h.same hzero).2.symm⟩
  · intro id k w op hid hload hdemands hwrites
    obtain ⟨r, hr, rfl, hversion⟩ := version_of_loadItem hid hload
    obtain ⟨r', hlive, hseen⟩ := hwrites.live
    obtain ⟨hr', hrid', -⟩ := live_of_findLive hlive
    rw [run_append] at hr'
    have h := (after_of_id_eq hnumbered between hr hr' hrid'.symm).version
    have hsame : r'.version = w.version := hseen _ hdemands
    omega

/-- The version of the item that an answer shows. -/
def Answer.version? : Except Error Answer → Option Int
  | .ok (.item w) => some w.version
  | _ => none

theorem Answer.version?_eq_some {a : Except Error Answer} {v : Int} :
    version? a = some v ↔ ∃ w, a = .ok (.item w) ∧ w.version = v := by
  rcases a with e | a
  · simp [version?]
  · cases a <;> simp [version?]

/-- One caller looks at an item, others make and delete another one and try to save the first with
a version that it does not have. The first caller's write succeeds, and nobody has written. -/
theorem version_counts_writes_of_stale_save :
    let before : List Operation := [.createType none "t" .empty, .createItem 1 "t" .empty "ann"]
    let between : List Operation :=
      [.createItem 2 "t" .empty "bob", .saveItem 3 true ⟨"1", "t", 7, .empty, none, none⟩,
        .deleteItem 4 "2"]
    let save : Operation := .saveItem 5 true ⟨"1", "t", 0, .empty, none, none⟩
    save.Writes 1 (run (before ++ between) empty).2 ∧
      writesTo 1 between (run before empty).2 = 0 := by
  intro before between save
  have hwrites : save.Writes 1 (run (before ++ between) empty).2 := by decide +kernel
  have hload : Answer.version? ((Operation.loadItem "1").run (run before empty).2).1 = some 0 := by
    decide +kernel
  obtain ⟨w, hw, hversion⟩ := Answer.version?_eq_some.1 hload
  have hdemands : save.Demands w.version := ⟨rfl, hversion.symm⟩
  have hid : itemId? "1" = some 1 := by decide +kernel
  exact ⟨hwrites, (version_counts_writes before between).2.2 "1" 1 w save hid hw hdemands hwrites⟩

end Store

end Backlog
