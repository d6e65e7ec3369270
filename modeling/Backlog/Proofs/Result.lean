import Mathlib.Data.List.Forall2

/-!
# Results of computations that can fail

A sequence of steps gives a result exactly if every step does (`bind_eq_ok`, `mapM_eq_ok`), also
where the steps keep a state (`run_bind_eq_ok`).
-/

namespace Backlog

variable {ε α β : Type}

/-! ## Finding an element -/

theorem find?_eq_some_of_unique {p : α → Bool} {xs : List α} {x : α} (hx : x ∈ xs)
    (hp : p x = true) (hunique : ∀ y ∈ xs, p y = true → y = x) : xs.find? p = some x := by
  obtain ⟨y, hy⟩ := Option.isSome_iff_exists.1 (List.find?_isSome.2 ⟨x, hx, hp⟩)
  rw [hy, hunique y (List.mem_of_find?_eq_some hy) (List.find?_some hy)]

/-! ## Lists in pairs -/

section Pairs

variable {R : α → β → Prop} {xs : List α} {ys : List β}

theorem exists_forall₂ (h : ∀ x ∈ xs, ∃ y, R x y) : ∃ ys, List.Forall₂ R xs ys := by
  induction xs with
  | nil => exact ⟨[], .nil⟩
  | cons x xs ih =>
    obtain ⟨y, hy⟩ := h x List.mem_cons_self
    obtain ⟨ys, hys⟩ := ih fun z hz => h z (List.mem_cons_of_mem x hz)
    exact ⟨y :: ys, .cons hy hys⟩

theorem exists_of_mem_right (h : List.Forall₂ R xs ys) {y : β} (hy : y ∈ ys) :
    ∃ x ∈ xs, R x y := by
  induction h with
  | nil => cases hy
  | cons hR _ ih =>
    rcases List.mem_cons.1 hy with rfl | hy
    · exact ⟨_, List.mem_cons_self, hR⟩
    · obtain ⟨x, hx, hxy⟩ := ih hy
      exact ⟨x, List.mem_cons_of_mem _ hx, hxy⟩

theorem exists_of_mem_left (h : List.Forall₂ R xs ys) {x : α} (hx : x ∈ xs) : ∃ y ∈ ys, R x y :=
  exists_of_mem_right (List.Forall₂.flip h) hx

theorem forall₂_append_left_iff {zs : List α} :
    List.Forall₂ R (xs ++ zs) ys ↔
      ∃ us vs, List.Forall₂ R xs us ∧ List.Forall₂ R zs vs ∧ ys = us ++ vs := by
  apply Iff.intro
  · intro h
    refine ⟨ys.take xs.length, ys.drop xs.length, ?_, ?_, (List.take_append_drop _ _).symm⟩
    · exact List.Forall₂.flip (List.forall₂_take_append _ _ _ (List.Forall₂.flip h))
    · exact List.Forall₂.flip (List.forall₂_drop_append _ _ _ (List.Forall₂.flip h))
  · intro h
    obtain ⟨us, vs, hus, hvs, rfl⟩ := h
    exact List.rel_append hus hvs

/-- Of the results for a list under distinct keys, one bears the key of a given element. -/
theorem filter_of_forall₂ {κ : Type} [DecidableEq κ] {key : α → κ} {key' : β → κ}
    (h : List.Forall₂ R xs ys) (hdistinct : (xs.map key).Nodup)
    (hkey : ∀ x ∈ xs, ∀ y, R x y → key' y = key x) {x : α} {y : β} (hx : x ∈ xs)
    (hxy : ∀ y', R x y' ↔ y' = y) : ys.filter (key' · = key x) = [y] := by
  induction h with
  | nil => cases hx
  | @cons x₀ y₀ xs ys hfirst hrest ih =>
    rw [List.map_cons, List.nodup_cons] at hdistinct
    rw [List.forall_mem_cons] at hkey
    have hkey₀ : key' y₀ = key x₀ := hkey.1 y₀ hfirst
    rcases List.mem_cons.1 hx with rfl | hx
    · obtain rfl := (hxy y₀).1 hfirst
      have hnone : ys.filter (key' · = key x) = [] := by
        rw [List.filter_eq_nil_iff]
        intro y' hy' hsame
        obtain ⟨x', hx', hR⟩ := exists_of_mem_right hrest hy'
        refine hdistinct.1 (List.mem_map.2 ⟨x', hx', ?_⟩)
        rw [← hkey.2 x' hx' y' hR]
        exact of_decide_eq_true hsame
      rw [List.filter_cons_of_pos (by simp [hkey₀]), hnone]
    · have hother : key x₀ ≠ key x := fun hsame => hdistinct.1 (hsame ▸ List.mem_map_of_mem hx)
      rw [List.filter_cons_of_neg (by simpa [hkey₀] using hother)]
      exact ih hdistinct.2 hkey.2 hx

end Pairs

/-! ## Sequences of steps -/

@[simp]
theorem ok_bind (a : α) (f : α → Except ε β) : (Except.ok a >>= f) = f a := rfl

@[simp]
theorem error_bind (e : ε) (f : α → Except ε β) : (Except.error e >>= f) = .error e := rfl

@[simp]
theorem map_ok (f : α → β) (a : α) : f <$> (Except.ok a : Except ε α) = .ok (f a) := rfl

@[simp]
theorem map_error (f : α → β) (e : ε) : f <$> (Except.error e : Except ε α) = .error e := rfl

theorem bind_eq_ok {x : Except ε α} {f : α → Except ε β} {b : β} :
    x >>= f = .ok b ↔ ∃ a, x = .ok a ∧ f a = .ok b := by
  cases x with
  | error e => simp
  | ok a => simp

@[simp]
theorem map_eq_ok {x : Except ε α} {f : α → β} {b : β} :
    x.map f = .ok b ↔ ∃ a, x = .ok a ∧ f a = b := by
  cases x with
  | error e => simp [Except.map]
  | ok a => simp [Except.map]

@[simp]
theorem mapError_eq_ok {ε' : Type} {x : Except ε α} {f : ε → ε'} {a : α} :
    x.mapError f = .ok a ↔ x = .ok a := by
  cases x with
  | error e =>
    show Except.error (f e) = .ok a ↔ Except.error e = .ok a
    simp
  | ok b =>
    show Except.ok b = .ok a ↔ Except.ok b = .ok a
    simp

theorem mapM_eq_ok {f : α → Except ε β} {xs : List α} {ys : List β} :
    xs.mapM f = .ok ys ↔ List.Forall₂ (fun x y => f x = .ok y) xs ys := by
  induction xs generalizing ys with
  | nil =>
    show Except.ok [] = .ok ys ↔ _
    simp [eq_comm]
  | cons x xs ih =>
    rw [List.mapM_cons, List.forall₂_cons_left_iff, bind_eq_ok]
    simp only [bind_eq_ok, ih]
    constructor
    · intro h
      obtain ⟨y, hy, ys, hys, ⟨⟩⟩ := h
      exact ⟨y, ys, hy, hys, rfl⟩
    · intro h
      obtain ⟨y, ys, hy, hys, rfl⟩ := h
      exact ⟨y, hy, ys, hys, rfl⟩

theorem mem_iff_of_forall₂ {f : α → Except ε β} {xs : List α} {ys : List β}
    (h : List.Forall₂ (fun x y => f x = .ok y) xs ys) {y : β} :
    y ∈ ys ↔ ∃ x ∈ xs, f x = .ok y := by
  constructor
  · exact exists_of_mem_right h
  · intro hx
    obtain ⟨x, hx, hy⟩ := hx
    obtain ⟨y', hy', hread⟩ := exists_of_mem_left h hx
    rwa [Except.ok.inj (hy.symm.trans hread)]

theorem run_bind_eq_ok {σ : Type} {a : ExceptT ε (StateM σ) α} {f : α → ExceptT ε (StateM σ) β}
    {s s' : σ} {y : β} :
    (a >>= f).run.run s = (.ok y, s') ↔
      ∃ x t, a.run.run s = (.ok x, t) ∧ (f x).run.run t = (.ok y, s') := by
  simp only [ExceptT.run_bind, StateT.run_bind]
  rcases a.run.run s with ⟨r | r, t⟩
  · constructor
    · intro h
      cases h
    · intro h
      obtain ⟨_, _, h, _⟩ := h
      cases h
  · constructor
    · intro h
      exact ⟨r, t, rfl, h⟩
    · intro h
      obtain ⟨_, _, h, h'⟩ := h
      cases h
      exact h'

theorem run_bind_eq_error {σ : Type} {a : ExceptT ε (StateM σ) α}
    {f : α → ExceptT ε (StateM σ) β} {s s' : σ} {e : ε} :
    (a >>= f).run.run s = (.error e, s') ↔
      a.run.run s = (.error e, s') ∨
        ∃ x t, a.run.run s = (.ok x, t) ∧ (f x).run.run t = (.error e, s') := by
  simp only [ExceptT.run_bind, StateT.run_bind]
  rcases a.run.run s with ⟨r | r, t⟩
  · constructor
    · intro h
      cases h
      exact .inl rfl
    · intro h
      obtain h | ⟨_, _, h, _⟩ := h
      · cases h
        rfl
      · cases h
  · constructor
    · intro h
      exact .inr ⟨r, t, rfl, h⟩
    · intro h
      obtain h | ⟨_, _, h, h'⟩ := h
      · cases h
      · cases h
        exact h'

end Backlog
