import Backlog.Proofs.Store.Action

/-!
# Failures of the store itself

Some errors name what the caller did, and one says only that the store has failed. Which results
are of the latter kind (`Faulty`) follows from their parts: a sequence of steps ends so exactly if
the first step that fails does.
-/

namespace Backlog

variable {α β : Type}

/-! ## Results -/

/-- An error of the store itself. -/
def Faulty (r : Except Error α) : Prop := ∃ reason, r = .error (.internal reason)

@[simp]
theorem not_faulty_ok (x : α) : ¬ Faulty (.ok x) := by
  intro h
  obtain ⟨_, h⟩ := h
  cases h

@[simp]
theorem faulty_error {e : Error} :
    Faulty (.error e : Except Error α) ↔ ∃ reason, e = .internal reason := by
  simp [Faulty]

@[simp]
theorem not_faulty_pure (x : α) : ¬ Faulty (pure x : Except Error α) := not_faulty_ok x

@[simp]
theorem faulty_throw {e : Error} :
    Faulty (throw e : Except Error α) ↔ ∃ reason, e = .internal reason := faulty_error

theorem faulty_bind {x : Except Error α} {f : α → Except Error β} :
    Faulty (x >>= f) ↔ Faulty x ∨ ∃ a, x = .ok a ∧ Faulty (f a) := by
  cases x with
  | error e => simp
  | ok a => simp

@[simp]
theorem faulty_map {x : Except Error α} {f : α → β} : Faulty (x.map f) ↔ Faulty x := by
  cases x with
  | error e => simp [Except.map]
  | ok a => simp [Except.map]

@[simp]
theorem faulty_functor_map {x : Except Error α} {f : α → β} : Faulty (f <$> x) ↔ Faulty x :=
  faulty_map

/-- A result whose errors all become failures of the store. -/
theorem faulty_mapError {ε : Type} {x : Except ε α} {g : ε → Error}
    (hg : ∀ e, ∃ reason, g e = .internal reason) :
    Faulty (x.mapError g) ↔ ¬ ∃ a, x = .ok a := by
  cases x with
  | error e => simpa [Except.mapError] using hg e
  | ok a => simp [Except.mapError]

/-- Going through a list ends at the first element that fails. -/
theorem faulty_mapM {f : α → Except Error β} {xs : List α} :
    Faulty (xs.mapM f) ↔ ∃ before x after, xs = before ++ x :: after ∧
      (∀ y ∈ before, ∃ b, f y = .ok b) ∧ Faulty (f x) := by
  induction xs with
  | nil =>
    constructor
    · intro h
      exact absurd h (not_faulty_ok _)
    · intro h
      obtain ⟨before, x, after, hsplit, -⟩ := h
      simp at hsplit
  | cons x xs ih =>
    rw [List.mapM_cons, faulty_bind]
    constructor
    · intro h
      rcases h with h | ⟨b, hb, h⟩
      · exact ⟨[], x, xs, rfl, by simp, h⟩
      · rcases faulty_bind.1 h with h | ⟨_, -, h⟩
        · obtain ⟨before, y, after, rfl, hbefore, hy⟩ := ih.1 h
          exact ⟨x :: before, y, after, rfl, List.forall_mem_cons.2 ⟨⟨b, hb⟩, hbefore⟩, hy⟩
        · exact absurd h (not_faulty_ok _)
    · intro h
      obtain ⟨before, y, after, hsplit, hbefore, hy⟩ := h
      cases before with
      | nil =>
        obtain ⟨rfl, rfl⟩ := List.cons.inj hsplit
        exact .inl hy
      | cons z before =>
        obtain ⟨rfl, rfl⟩ := List.cons.inj hsplit
        obtain ⟨⟨b, hb⟩, hbefore⟩ := List.forall_mem_cons.1 hbefore
        exact .inr ⟨b, hb, faulty_bind.2 (.inl (ih.2 ⟨before, y, after, rfl, hbefore, hy⟩))⟩

theorem not_faulty_mapM {f : α → Except Error β} {xs : List α} (h : ∀ x ∈ xs, ¬ Faulty (f x)) :
    ¬ Faulty (xs.mapM f) := by
  intro hfaulty
  obtain ⟨before, x, after, rfl, -, hx⟩ := faulty_mapM.1 hfaulty
  exact h x (List.mem_append_right before List.mem_cons_self) hx

/-- Where every failure is one of the store, some element fails. -/
theorem faulty_mapM_of_forall {f : α → Except Error β} {xs : List α}
    (h : ∀ x ∈ xs, Faulty (f x) ∨ ∃ b, f x = .ok b) :
    Faulty (xs.mapM f) ↔ ∃ x ∈ xs, Faulty (f x) := by
  induction xs with
  | nil =>
    constructor
    · intro hfaulty
      exact absurd hfaulty (not_faulty_ok _)
    · intro hfaulty
      obtain ⟨_, hx, -⟩ := hfaulty
      cases hx
  | cons x xs ih =>
    obtain ⟨hfirst, hrest⟩ := List.forall_mem_cons.1 h
    rw [List.mapM_cons, faulty_bind, List.exists_mem_cons_iff, ← ih hrest]
    rcases hfirst with hfirst | ⟨b, hb⟩
    · exact iff_of_true (.inl hfirst) (.inl hfirst)
    · simp [hb]

/-! ## Actions -/

namespace Store

namespace Action

variable {a : Action α} {f : α → Action β} {s s' : Store}

/-- The action ends in an error of the store itself. -/
def Faults (a : Action α) (s : Store) : Prop := Faulty (a.runOn s).1

@[simp]
theorem not_faults_pure (x : α) (s : Store) : ¬ Faults (pure x) s := not_faulty_ok x

@[simp]
theorem not_faults_look (f : Store → α) (s : Store) : ¬ Faults (look f) s := not_faulty_ok _

@[simp]
theorem faults_throw {e : Error} :
    Faults (throw e : Action α) s ↔ ∃ reason, e = .internal reason := faulty_error

@[simp]
theorem faults_ofResult {r : Except Error α} : Faults (ofResult r) s ↔ Faulty r := by
  rw [Faults, runOn_ofResult]

theorem faults_bind : Faults (a >>= f) s ↔
    Faults a s ∨ ∃ x t, a.runOn s = (.ok x, t) ∧ Faults (f x) t := by
  rw [Faults, Faults, runOn_bind]
  rcases a.runOn s with ⟨e | x, t⟩
  · simp
  · simp [Faults]

/-- What cannot fault adds nothing. -/
theorem faults_bind_of_not (hf : ∀ x t, ¬ Faults (f x) t) : Faults (a >>= f) s ↔ Faults a s := by
  rw [faults_bind]
  refine or_iff_left ?_
  rintro ⟨x, t, -, hfaults⟩
  exact hf x t hfaults

theorem faults_get_bind {g : Store → Action α} : Faults (get >>= g) s ↔ Faults (g s) s := by
  rw [Faults, get_bind_runOn, Faults]

/-- After a look at the store comes the rest on the same store. -/
theorem faults_ofResult_bind {r : Except Error α} :
    Faults (ofResult r >>= f) s ↔ Faulty r ∨ ∃ x, r = .ok x ∧ Faults (f x) s := by
  simp [faults_bind]

@[simp]
theorem faults_map {g : α → β} : Faults (g <$> a) s ↔ Faults a s := by
  rw [Faults, runOn_map, faulty_map, Faults]

theorem faults_statement {g : Store → Except Error Store} :
    Faults (statement g) s ↔ Faulty (g s) := by
  rw [Faults, runOn_statement]
  cases g s <;> simp

@[simp]
theorem faults_transaction {scope : Scope} : Faults (transaction scope a) s ↔ Faults a s := by
  cases scope with
  | joined => rfl
  | own =>
    rw [Faults, Faults, transaction, runOn_atomically]
    rcases a.runOn s with ⟨e | x, t⟩ <;> simp

/-- Looking for something in the store and failing without it, for a reason of the caller's, faults
exactly if looking does. -/
theorem faults_lookup {find : Store → Except Error (Option α)} {g : Option α → Action α} {e : Error}
    (hsome : ∀ x, g (some x) = pure x) (hnone : g none = throw e)
    (he : ∀ reason, e ≠ .internal reason) :
    Faults (get >>= fun s => ofResult (find s) >>= g) s ↔ Faulty (find s) := by
  rw [faults_get_bind, faults_ofResult_bind]
  refine or_iff_left ?_
  rintro ⟨found, -, hfaults⟩
  cases found with
  | none =>
    rw [hnone, faults_throw] at hfaults
    obtain ⟨reason, hreason⟩ := hfaults
    exact he reason hreason
  | some x =>
    rw [hsome] at hfaults
    exact not_faults_pure x s hfaults

end Action

end Store

end Backlog
