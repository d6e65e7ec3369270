import Backlog.Proofs.Result
import Backlog.Store.Basic

/-!
# Runs of actions

What the parts of an action give, and two properties that a whole action has from its parts.

**Taken apart.** `bind_runOn_eq_ok`: a sequence succeeds exactly if its steps do, one on the store
that the other left. A step that only looks leaves the store it saw (`look_bind_runOn_eq_ok`).

**Put together.** An action that is `ReadOnly` leaves the store alone. One that is `Guarded` does
so when it fails: it is a transaction, or it looks first and ends with one statement.
-/

namespace Backlog.Store.Action

variable {α β : Type} {a : Action α} {f : α → Action β} {s s' : Store} {x : α} {y : β} {e : Error}

/-! ## Single steps -/

@[simp]
theorem runOn_pure (x : α) (s : Store) : (pure x : Action α).runOn s = (.ok x, s) := rfl

@[simp]
theorem runOn_throw (e : Error) (s : Store) : (throw e : Action α).runOn s = (.error e, s) := rfl

@[simp]
theorem runOn_get (s : Store) : (get : Action Store).runOn s = (.ok s, s) := rfl

@[simp]
theorem runOn_ofResult (r : Except Error α) (s : Store) : (ofResult r).runOn s = (r, s) := by
  cases r <;> rfl

theorem runOn_bind (a : Action α) (f : α → Action β) (s : Store) :
    (a >>= f).runOn s = match a.runOn s with
      | (.ok x, s') => (f x).runOn s'
      | (.error e, s') => (.error e, s') := by
  show ((a >>= f).run.run s) = _
  simp only [ExceptT.run_bind, StateT.run_bind, runOn]
  rcases a.run.run s with ⟨r | r, t⟩ <;> rfl

theorem runOn_map (a : Action α) (g : α → β) (s : Store) :
    (g <$> a).runOn s = ((a.runOn s).1.map g, (a.runOn s).2) := by
  rw [map_eq_pure_bind, runOn_bind]
  rcases a.runOn s with ⟨r | r, t⟩ <;> rfl

theorem runOn_statement (g : Store → Except Error Store) (s : Store) :
    (statement g).runOn s = match g s with
      | .ok s' => (.ok (), s')
      | .error e => (.error e, s) := by
  rw [statement, runOn_bind, runOn_get]
  simp only
  cases g s <;> rfl

theorem runOn_atomically (a : Action α) (s : Store) :
    (atomically a).runOn s = match a.runOn s with
      | (.ok x, s') => (.ok x, s')
      | (.error e, _) => (.error e, s) := by
  show ((atomically a).run.run s) = _
  simp only [atomically, ExceptT.run_mk, StateT.run_bind, StateT.run_get, pure_bind, runOn]
  rcases a.run.run s with ⟨r | r, t⟩ <;> rfl

/-! ## Success -/

theorem bind_runOn_eq_ok :
    (a >>= f).runOn s = (.ok y, s') ↔
      ∃ x t, a.runOn s = (.ok x, t) ∧ (f x).runOn t = (.ok y, s') :=
  run_bind_eq_ok

theorem map_runOn_eq_ok {g : α → β} :
    (g <$> a).runOn s = (.ok y, s') ↔ ∃ x, a.runOn s = (.ok x, s') ∧ g x = y := by
  rw [runOn_map]
  rcases a.runOn s with ⟨r | r, t⟩
  · simp [Except.map]
  · simp only [Except.map, Prod.mk.injEq, Except.ok.injEq]
    constructor
    · intro h
      obtain ⟨h, rfl⟩ := h
      exact ⟨r, ⟨rfl, rfl⟩, h⟩
    · intro h
      obtain ⟨_, ⟨rfl, rfl⟩, h⟩ := h
      exact ⟨h, rfl⟩

theorem get_bind_runOn {f : Store → Action β} (s : Store) :
    (get >>= f).runOn s = (f s).runOn s := by
  rw [runOn_bind, runOn_get]

theorem ofResult_runOn_eq_ok {r : Except Error α} :
    (ofResult r).runOn s = (.ok x, s') ↔ r = .ok x ∧ s = s' := by
  rw [runOn_ofResult, Prod.mk.injEq]

/-- What follows a step that only looks runs on the same store. -/
theorem look_bind_runOn_eq_ok {P : α → Prop}
    (ha : ∀ x t, a.runOn s = (.ok x, t) ↔ P x ∧ s = t) :
    (a >>= f).runOn s = (.ok y, s') ↔ ∃ x, P x ∧ (f x).runOn s = (.ok y, s') := by
  rw [bind_runOn_eq_ok]
  constructor
  · intro h
    obtain ⟨x, t, hlook, h⟩ := h
    obtain ⟨hx, rfl⟩ := (ha x t).1 hlook
    exact ⟨x, hx, h⟩
  · intro h
    obtain ⟨x, hx, h⟩ := h
    exact ⟨x, s, (ha x s).2 ⟨hx, rfl⟩, h⟩

theorem ofResult_bind_runOn_eq_ok {r : Except Error α} :
    (ofResult r >>= f).runOn s = (.ok y, s') ↔
      ∃ x, r = .ok x ∧ (f x).runOn s = (.ok y, s') :=
  look_bind_runOn_eq_ok fun _ _ => ofResult_runOn_eq_ok

theorem statement_runOn_eq_ok {g : Store → Except Error Store} {u : Unit} :
    (statement g).runOn s = (.ok u, s') ↔ g s = .ok s' := by
  rw [runOn_statement]
  cases g s <;> simp

theorem transaction_runOn_eq_ok {scope : Scope} :
    (transaction scope a).runOn s = (.ok x, s') ↔ a.runOn s = (.ok x, s') := by
  cases scope with
  | joined => rfl
  | own =>
    rw [transaction, runOn_atomically]
    rcases a.runOn s with ⟨r | r, t⟩ <;> simp

/-! ## Whole actions -/

/-- An action that leaves the store alone. -/
def ReadOnly (a : Action α) : Prop := ∀ s, (a.runOn s).2 = s

/-- An action that leaves the store alone when it fails. -/
def Guarded (a : Action α) : Prop := ∀ s e s', a.runOn s = (.error e, s') → s' = s

theorem ReadOnly.eq_of_runOn {r : Except Error α} (h : ReadOnly a) (hr : a.runOn s = (r, s')) :
    s = s' := by
  rw [← h s, hr]

theorem ReadOnly.guarded (h : ReadOnly a) : Guarded a := fun s e s' he => by
  rw [← h s, he]

theorem readOnly_pure (x : α) : ReadOnly (pure x) := fun _ => rfl

theorem readOnly_throw (e : Error) : ReadOnly (throw e : Action α) := fun _ => rfl

theorem readOnly_get : ReadOnly get := fun _ => rfl

theorem readOnly_look (g : Store → α) : ReadOnly (look g) := fun _ => rfl

theorem readOnly_ofResult (r : Except Error α) : ReadOnly (ofResult r) := fun s => by
  rw [runOn_ofResult]

theorem ReadOnly.bind (ha : ReadOnly a) (hf : ∀ x, ReadOnly (f x)) : ReadOnly (a >>= f) := by
  intro s
  rw [runOn_bind]
  have hs := ha s
  rcases hrun : a.runOn s with ⟨r | r, t⟩
  · rwa [hrun] at hs
  · obtain rfl : t = s := by rwa [hrun] at hs
    exact hf r t

theorem ReadOnly.map (ha : ReadOnly a) (g : α → β) : ReadOnly (g <$> a) := fun s => by
  rw [runOn_map]
  exact ha s

/-- Looking first keeps an action guarded. -/
theorem ReadOnly.guarded_bind (ha : ReadOnly a) (hf : ∀ x, Guarded (f x)) : Guarded (a >>= f) := by
  intro s e s' h
  rw [runOn_bind] at h
  have hs := ha s
  rcases hrun : a.runOn s with ⟨r | r, t⟩
  · rw [hrun] at h hs
    cases h
    exact hs
  · rw [hrun] at h hs
    obtain rfl : t = s := hs
    exact hf r _ e s' h

theorem guarded_throw (e : Error) : Guarded (throw e : Action α) := (readOnly_throw e).guarded

theorem guarded_statement (g : Store → Except Error Store) : Guarded (statement g) := by
  intro s e s' h
  rw [runOn_statement] at h
  split at h
  · cases h
  · cases h
    rfl

theorem Guarded.map (ha : Guarded a) (g : α → β) : Guarded (g <$> a) := by
  intro s e s' h
  rw [runOn_map] at h
  rcases hrun : a.runOn s with ⟨r | r, t⟩
  · rw [hrun] at h
    cases h
    exact ha s _ _ hrun
  · rw [hrun] at h
    cases h

/-- What follows a statement without a chance to fail keeps it guarded. -/
theorem Guarded.bind_pure (ha : Guarded a) (g : α → β) : Guarded (a >>= fun x => pure (g x)) := by
  simpa only [map_eq_pure_bind] using ha.map g

theorem guarded_transaction_own (a : Action α) : Guarded (transaction .own a) := by
  intro s e s' h
  rw [transaction, runOn_atomically] at h
  split at h
  · cases h
  · cases h
    rfl

/-! ## Lookup -/

section Lookup

variable {find : Store → Except Error (Option α)} {f : Option α → Action α}

/-- Looking for something in the store and failing without it succeeds exactly if it is there. -/
theorem lookup_runOn_eq_ok (hsome : ∀ x, f (some x) = pure x) (hnone : f none = throw e) :
    (get >>= fun s => ofResult (find s) >>= f).runOn s = (.ok x, s') ↔
      find s = .ok (some x) ∧ s = s' := by
  rw [get_bind_runOn, ofResult_bind_runOn_eq_ok]
  constructor
  · intro h
    obtain ⟨found, hfound, h⟩ := h
    cases found with
    | none =>
      rw [hnone] at h
      cases h
    | some x' =>
      rw [hsome] at h
      cases h
      exact ⟨hfound, rfl⟩
  · intro h
    obtain ⟨hfound, rfl⟩ := h
    refine ⟨some x, hfound, ?_⟩
    rw [hsome]
    rfl

theorem readOnly_lookup (hsome : ∀ x, f (some x) = pure x) (hnone : f none = throw e) :
    ReadOnly (get >>= fun s => ofResult (find s) >>= f) := by
  refine readOnly_get.bind fun s => (readOnly_ofResult _).bind fun found => ?_
  cases found with
  | none =>
    rw [hnone]
    exact readOnly_throw e
  | some x =>
    rw [hsome]
    exact readOnly_pure x

end Lookup

end Backlog.Store.Action
