import Backlog.Field.Values
import Backlog.Proofs.Field.Shape

/-!
# Lists convert element by element

A list converts if each of its elements does, and else it fails for the first one that does not.

**Main statement (`FieldType.list_convert_decides`).** What a list converts to has the length of the
list, and stands for it place by place. An error names the first place that fails and says what is
wrong there. Two lists behind each other convert as each does by itself, where the places of the
second begin behind the first.

**The first place** is a fact about the list and the conversion of one element (`FailsFirst`), not
about the way through the list. The index that the conversion counts up is the number of elements
before the place (`convertItems_eq_error`).
-/

namespace Backlog

/-- The conversion of one value of a scalar kind, which takes no `null`. -/
def Scalar.convert (s : Scalar) : Direction → Json → Scalar.Conversion
  | .toStorage => s.toStorage
  | .toWire => s.toWire

/-! ## The first place that fails -/

/-- The element at a place fails for a cause, and every element before it converts. -/
structure FailsFirst (f : Json → Scalar.Conversion) (xs : List Json) (n : Nat)
    (cause : ConversionError) : Prop where
  bound : n < xs.length
  fails : f xs[n] = .error cause
  before : ∀ m (h : m < n), ∃ y, f xs[m] = .ok y

section Places

variable {f : Json → Scalar.Conversion} {x y : Json} {xs ys us vs : List Json} {i n : Nat}
  {cause cause' e : ConversionError}

theorem not_failsFirst_nil : ¬ FailsFirst f [] n cause := fun h => Nat.not_lt_zero n h.bound

theorem failsFirst_cons_of_error (hx : f x = .error cause') :
    FailsFirst f (x :: xs) n cause ↔ n = 0 ∧ cause = cause' := by
  apply Iff.intro
  · intro h
    cases n with
    | zero => exact ⟨rfl, Except.error.inj (h.fails.symm.trans hx)⟩
    | succ n =>
      obtain ⟨y, hy⟩ := h.before 0 (Nat.succ_pos n)
      exact absurd (hy.symm.trans hx) (by simp)
  · rintro ⟨rfl, rfl⟩
    exact ⟨by simp, hx, fun m hm => absurd hm (Nat.not_lt_zero m)⟩

theorem failsFirst_cons_of_ok (hx : f x = .ok y) :
    FailsFirst f (x :: xs) n cause ↔ ∃ m, n = m + 1 ∧ FailsFirst f xs m cause := by
  apply Iff.intro
  · intro h
    cases n with
    | zero => exact absurd (h.fails.symm.trans hx) (by simp)
    | succ n =>
      refine ⟨n, rfl, Nat.lt_of_succ_lt_succ h.bound, h.fails, fun m hm => ?_⟩
      exact h.before (m + 1) (Nat.succ_lt_succ hm)
  · rintro ⟨m, rfl, h⟩
    refine ⟨Nat.succ_lt_succ h.bound, h.fails, fun k hk => ?_⟩
    cases k with
    | zero => exact ⟨y, hx⟩
    | succ k => exact h.before k (Nat.lt_of_succ_lt_succ hk)

/-- In two lists behind each other the first place is in the first, or in the second where the first
has none. -/
theorem failsFirst_append : FailsFirst f (xs ++ ys) n cause ↔
    FailsFirst f xs n cause ∨
      (∀ x ∈ xs, ∃ y, f x = .ok y) ∧ ∃ m, n = xs.length + m ∧ FailsFirst f ys m cause := by
  induction xs generalizing n with
  | nil => simp [not_failsFirst_nil]
  | cons x xs ih =>
    rw [List.cons_append, List.forall_mem_cons, List.length_cons]
    cases hx : f x with
    | error cause' => simp [failsFirst_cons_of_error hx]
    | ok y =>
      simp only [failsFirst_cons_of_ok hx, ih, Except.ok.injEq, exists_eq', true_and]
      apply Iff.intro
      · rintro ⟨m, rfl, h | ⟨hall, k, rfl, h⟩⟩
        · exact .inl ⟨m, rfl, h⟩
        · exact .inr ⟨hall, k, by omega, h⟩
      · rintro (⟨m, rfl, h⟩ | ⟨hall, k, rfl, h⟩)
        · exact ⟨m, rfl, .inl h⟩
        · exact ⟨xs.length + k, by omega, .inr ⟨hall, k, rfl, h⟩⟩

/-! ## Conversion of elements -/

/-- Conversion fails for the first place that does, counted from where it began. -/
theorem convertItems_eq_error : convertItems f i xs = .error e ↔
    ∃ n cause, e = .element (i + n) cause ∧ FailsFirst f xs n cause := by
  induction xs generalizing i with
  | nil => simp [convertItems, not_failsFirst_nil]
  | cons x xs ih =>
    rw [convertItems]
    cases hx : f x with
    | error cause' => simp [failsFirst_cons_of_error hx, eq_comm]
    | ok y =>
      have hrest : (convertItems f (i + 1) xs).map (y :: ·) = .error e ↔
          convertItems f (i + 1) xs = .error e := by
        cases convertItems f (i + 1) xs <;> simp [Except.map]
      simp only [hrest, ih, failsFirst_cons_of_ok hx]
      apply Iff.intro
      · rintro ⟨n, cause, rfl, h⟩
        exact ⟨n + 1, cause, by rw [Nat.add_right_comm, Nat.add_assoc], n, rfl, h⟩
      · rintro ⟨_, cause, rfl, n, rfl, h⟩
        exact ⟨n, cause, by rw [Nat.add_right_comm, Nat.add_assoc], h⟩

end Places

/-! ## Lists -/

section Lists

variable {f : Json → Scalar.Conversion} {expected : String} {xs ys : List Json} {v : Json}
  {e cause : ConversionError} {n : Nat}

theorem convertList_arr_eq_ok : convertList f expected (.arr xs) = .ok v ↔
    ∃ us, v = .arr us ∧ us.length = xs.length ∧
      ∀ i (hx : i < xs.length) (hu : i < us.length), f xs[i] = .ok us[i] := by
  rw [convertList_eq_ok]
  simp only [Json.arr.injEq, List.forall₂_iff_get, List.get_eq_getElem]
  apply Iff.intro
  · rintro ⟨_, us, rfl, rfl, hlength, hpairs⟩
    exact ⟨us, rfl, hlength.symm, hpairs⟩
  · rintro ⟨us, rfl, hlength, hpairs⟩
    exact ⟨xs, us, rfl, rfl, hlength.symm, hpairs⟩

theorem convertList_arr_eq_error : convertList f expected (.arr xs) = .error e ↔
    ∃ n cause, e = .element n cause ∧ FailsFirst f xs n cause := by
  have hitems : convertList f expected (.arr xs) = .error e ↔ convertItems f 0 xs = .error e := by
    rw [convertList]
    cases convertItems f 0 xs <;> simp [Except.map]
  simp only [hitems, convertItems_eq_error, Nat.zero_add]

theorem convertList_arr_eq_element : convertList f expected (.arr xs) = .error (.element n cause) ↔
    FailsFirst f xs n cause := by
  rw [convertList_arr_eq_error]
  apply Iff.intro
  · rintro ⟨_, _, ⟨⟩, h⟩
    exact h
  · intro h
    exact ⟨n, cause, rfl, h⟩

/-- A list converts if each of its elements does. -/
theorem exists_convertList_iff : (∃ v, convertList f expected (.arr xs) = .ok v) ↔
    ∀ x ∈ xs, ∃ y, f x = .ok y := by
  apply Iff.intro
  · rintro ⟨v, hv⟩ x hx
    obtain ⟨_, us, ⟨⟩, -, hpairs⟩ := convertList_eq_ok.1 hv
    obtain ⟨y, -, hy⟩ := exists_of_mem_left hpairs hx
    exact ⟨y, hy⟩
  · intro hall
    obtain ⟨us, hus⟩ := exists_forall₂ hall
    exact ⟨.arr us, convertList_eq_ok.2 ⟨xs, us, rfl, rfl, hus⟩⟩

theorem convertList_append_eq_ok : convertList f expected (.arr (xs ++ ys)) = .ok v ↔
    ∃ us vs, convertList f expected (.arr xs) = .ok (.arr us) ∧
      convertList f expected (.arr ys) = .ok (.arr vs) ∧ v = .arr (us ++ vs) := by
  simp only [convertList_eq_ok, Json.arr.injEq, exists_and_left, exists_eq_left',
    forall₂_append_left_iff]
  apply Iff.intro
  · rintro ⟨_, rfl, us, hus, vs, hvs, rfl⟩
    exact ⟨us, hus, vs, hvs, rfl⟩
  · rintro ⟨us, hus, vs, hvs, rfl⟩
    exact ⟨us ++ vs, rfl, us, hus, vs, hvs, rfl⟩

theorem convertList_append_eq_element :
    convertList f expected (.arr (xs ++ ys)) = .error (.element n cause) ↔
      convertList f expected (.arr xs) = .error (.element n cause) ∨
        (∃ u, convertList f expected (.arr xs) = .ok u) ∧
          ∃ m, n = xs.length + m ∧ convertList f expected (.arr ys) = .error (.element m cause) := by
  simp only [convertList_arr_eq_element, exists_convertList_iff, failsFirst_append]

end Lists

namespace FieldType

/-- **How the conversion of a list is decided.** Both ways and for every kind of element, a list
converts to the list of what its elements convert to, place by place, and it does if all of them do.
Otherwise it fails with the first place that does and with the error of the element there. Of two
lists behind each other both have to convert, to results that stand behind each other; an error is
that of the first list, or that of the second with its place moved behind the first. -/
theorem list_convert_decides (s : Scalar) (dir : Direction) :
    let all := convertList (s.convert dir) Kind.list.wireShape
    (∀ v, v ≠ .null → (list s).convert dir v = all v) ∧
    (∀ xs,
      (∀ v, all (.arr xs) = .ok v ↔ ∃ us, v = .arr us ∧ us.length = xs.length ∧
        ∀ i (hx : i < xs.length) (hu : i < us.length), s.convert dir xs[i] = .ok us[i]) ∧
      ((∃ v, all (.arr xs) = .ok v) ↔ ∀ x ∈ xs, ∃ y, s.convert dir x = .ok y) ∧
      ∀ e, all (.arr xs) = .error e ↔
        ∃ n cause, e = .element n cause ∧ FailsFirst (s.convert dir) xs n cause) ∧
    ∀ xs ys,
      (∀ v, all (.arr (xs ++ ys)) = .ok v ↔ ∃ us vs, all (.arr xs) = .ok (.arr us) ∧
        all (.arr ys) = .ok (.arr vs) ∧ v = .arr (us ++ vs)) ∧
      ∀ n cause, all (.arr (xs ++ ys)) = .error (.element n cause) ↔
        all (.arr xs) = .error (.element n cause) ∨
          (∃ u, all (.arr xs) = .ok u) ∧
            ∃ m, n = xs.length + m ∧ all (.arr ys) = .error (.element m cause) := by
  intro all
  refine ⟨fun v hv => ?_, fun xs => ⟨?_, exists_convertList_iff, ?_⟩, fun xs ys => ⟨?_, ?_⟩⟩
  · cases dir with
    | toStorage => exact toStorage_of_ne_null (t := list s) hv
    | toWire => exact toWire_of_ne_null (t := list s) hv
  · exact fun v => convertList_arr_eq_ok
  · exact fun e => convertList_arr_eq_error
  · exact fun v => convertList_append_eq_ok
  · exact fun n cause => convertList_append_eq_element

/-- Of four elements the last two are no integers, and the third one is named. -/
theorem list_convert_decides_twoParts :
    (list .integer).convert .toStorage (.arr ([.int 1, .int 2] ++ [.null, .str "x"])) =
      .error (.element 2 (.shape "integer" .null)) := by
  obtain ⟨hlist, -, happend⟩ := list_convert_decides .integer .toStorage
  rw [hlist _ (by simp), (happend _ _).2]
  exact .inr ⟨⟨_, rfl⟩, 0, rfl, rfl⟩

end FieldType

end Backlog
