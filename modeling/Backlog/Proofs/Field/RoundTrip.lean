import Backlog.Proofs.Field.Shape

/-!
# Stored values are shown, and mostly come back

A value that a field type has stored is always shown again. What is shown is stored as the same
value, unless an instant in it has left the years of four digits.

**Main statement.** `FieldType.toStorage_toWire_iff`.

An offset from universal time, or a leap second at the very end, can carry an instant out of the
years 0 to 9999. It is stored and shown there, with a sign before the year, which the reader of
instants refuses.
-/

namespace Backlog

open Moment (InPlainYears)

/-! ## Instants in stored values -/

/-- The instants of a scalar value in storage shape, in microseconds. -/
def Scalar.storedInstants : Scalar → Json → List Int
  | .instant, .int us => [us]
  | _, _ => []

/-- The instants in a value that a field type stores. -/
def FieldType.storedInstants : FieldType → Json → List Int
  | .scalar s, v => s.storedInstants v
  | .enum c, v => c.base.storedInstants v
  | .list s, .arr xs => xs.flatMap s.storedInstants
  | .list _, _ => []

/-! ## Scalars -/

namespace Scalar

variable {s : Scalar} {v x w : Json}

theorem storedInstants_of_ne (h : s ≠ .instant) (x : Json) : s.storedInstants x = [] := by
  cases s <;> first | rfl | exact absurd rfl h

/-- Kinds other than instants are shown as they are stored, and stored as they are. -/
theorem toStorage_self (h : s.toStorage v = .ok x) (hs : s ≠ .instant) : s.toStorage x = .ok x := by
  cases s with
  | string | user | float =>
    obtain ⟨a, -, rfl⟩ := require_eq_ok.1 h
    rfl
  | integer | duration =>
    obtain ⟨n, hn, rfl⟩ := require_eq_ok.1 h
    have hn := (Json.int64?_eq_some.1 hn).2
    exact require_eq_ok.2 ⟨n, Json.int64?_eq_some.2 ⟨rfl, hn⟩, rfl⟩
  | instant => exact absurd rfl hs
  | url =>
    obtain ⟨a, -, rfl, hcheck⟩ := urlToStorage_eq_ok.1 h
    exact urlToStorage_eq_ok.2 ⟨a, rfl, rfl, hcheck⟩
  | workItem =>
    obtain ⟨a, rfl, htrim, hne⟩ := itemIdToStorage_eq_ok h
    simp only [toStorage, itemIdToStorage, htrim, hne, Bool.false_eq_true, if_false]

/-- An instant that is shown is stored as the same count of microseconds in the years of four
digits and in no others. -/
theorem instantToStorage_toWire {us : Int} (hw : instantToWire (.int us) = .ok w) :
    instantToStorage w = .ok (.int us) ↔ InPlainYears us := by
  rw [instantToWire.eq_def] at hw
  split at hw
  · cases hw
  next n hn =>
    obtain ⟨⟨⟩, -⟩ := Json.int64?_eq_some.1 hn
    split at hw
    next t ht =>
      cases hw
      rw [← Moment.readStrict_ofMicros? ht, instantToStorage.eq_def]
      simp only
      cases Moment.readStrict t.microText with
      | ok u => simp
      | error e => simp
    · cases hw

theorem toStorage_shown_iff (h : s.toStorage v = .ok x) (hw : s.toWire x = .ok w) :
    s.toStorage w = .ok x ↔ ∀ us ∈ s.storedInstants x, InPlainYears us := by
  by_cases hs : s = .instant
  · subst hs
    obtain ⟨us, t, rfl, -⟩ := instantToStorage_eq_ok h
    simpa [storedInstants, toStorage] using instantToStorage_toWire hw
  · obtain ⟨w', hw', -, hself⟩ := (stores_of_toStorage h).toWire
    obtain rfl : w = w' := by simpa [hw] using hw'
    obtain rfl := hself hs
    simp only [storedInstants_of_ne hs, List.not_mem_nil, false_implies, implies_true, iff_true]
    exact toStorage_self h hs

/-- What is shown is stored as the same value or not at all. -/
theorem eq_of_toStorage_shown {y : Json} (h : s.toStorage v = .ok x) (hw : s.toWire x = .ok w)
    (hy : s.toStorage w = .ok y) : y = x := by
  suffices hself : s.toStorage w = .ok x by
    rw [hself] at hy
    cases hy
    rfl
  refine (toStorage_shown_iff h hw).2 ?_
  by_cases hs : s = .instant
  · subst hs
    obtain ⟨us, t, rfl, hus, ht⟩ := instantToStorage_eq_ok h
    simp only [toWire, instantToWire, Json.int64?_eq_some.2 ⟨rfl, hus⟩, ht] at hw
    cases hw
    simp only [storedInstants, List.mem_singleton, forall_eq]
    by_contra hyear
    simp only [toStorage, instantToStorage] at hy
    split at hy
    next u hu => exact Moment.readStrict_microText_ne_ok (mt (Moment.hasPlainYear_iff ht).1 hyear) u hu
    · cases hy
  · simp [storedInstants_of_ne hs]

end Scalar

/-! ## Field types -/

namespace FieldType

/-- A list comes back exactly if each of its elements does. -/
theorem forall₂_toStorage_toWire_iff {s : Scalar} {vs xs ws : List Json}
    (h : List.Forall₂ (fun v x => s.toStorage v = .ok x) vs xs)
    (hw : List.Forall₂ (fun x w => s.toWire x = .ok w) xs ws) :
    List.Forall₂ (fun w x => s.toStorage w = .ok x) ws xs ↔
      ∀ us ∈ xs.flatMap s.storedInstants, InPlainYears us := by
  induction h generalizing ws with
  | nil =>
    cases hw
    simp
  | cons hx hxs ih =>
    cases hw with
    | cons hw hws =>
      rw [List.forall₂_cons, List.flatMap_cons, ih hws, Scalar.toStorage_shown_iff hx hw]
      simp only [List.mem_append, or_imp, forall_and]

/-- A stored value is always shown again, and what is shown is stored as the same value exactly if
no instant in it lies outside the years of four digits. -/
theorem toStorage_toWire_iff {t : FieldType} {v x : Json} (h : t.toStorage v = .ok x) :
    ∃ w, t.toWire x = .ok w ∧
      (t.toStorage w = .ok x ↔ ∀ us ∈ t.storedInstants x, InPlainYears us) := by
  by_cases hv : v = .null
  · subst hv
    cases h
    refine ⟨.null, rfl, iff_of_true rfl ?_⟩
    cases t with
    | scalar s => cases s <;> simp [storedInstants, Scalar.storedInstants]
    | enum c => simp [storedInstants, Scalar.storedInstants]
    | list s => simp [storedInstants]
  have hx := stores_of_toStorage h hv
  obtain ⟨w, hw, hne⟩ := hx.toWire
  refine ⟨w, hw, ?_⟩
  rw [toStorage_of_ne_null hv] at h
  rw [toWire_of_ne_null hx.ne_null] at hw
  rw [toStorage_of_ne_null hne]
  cases t with
  | scalar s => exact Scalar.toStorage_shown_iff h hw
  | enum c =>
    simp only [Choices.toWire, hx.2, if_true] at hw
    simp only [Choices.toStorage_eq_ok, hx.2, and_true]
    exact Scalar.toStorage_shown_iff (Choices.toStorage_eq_ok.1 h).1 hw
  | list s =>
    obtain ⟨vs, xs, -, rfl, hxs⟩ := convertList_eq_ok.1 h
    obtain ⟨_, ws, ⟨⟩, rfl, hws⟩ := convertList_eq_ok.1 hw
    simp only [convertList_eq_ok, Json.arr.injEq, exists_and_left, exists_eq_left']
    exact forall₂_toStorage_toWire_iff hxs hws

/-- The second after the last year of four digits is written as a leap second. It is stored and
shown, but what is shown is not stored again. -/
theorem toStorage_toWire_leapSecond :
    (list .instant).toStorage (.arr [.str "0000-01-01T00:00:00Z", .str "9999-12-31T23:59:60Z"]) =
        .ok (.arr [.int (-62167219200000000), .int 253402300800000000]) ∧
      ∃ w, (list .instant).toWire (.arr [.int (-62167219200000000), .int 253402300800000000]) =
          .ok w ∧
        (list .instant).toStorage w ≠
          .ok (.arr [.int (-62167219200000000), .int 253402300800000000]) := by
  have hstored : (list .instant).toStorage
      (.arr [.str "0000-01-01T00:00:00Z", .str "9999-12-31T23:59:60Z"]) =
        .ok (.arr [.int (-62167219200000000), .int 253402300800000000]) := rfl
  obtain ⟨w, hw, hiff⟩ := toStorage_toWire_iff hstored
  refine ⟨hstored, w, hw, fun h => ?_⟩
  have hplain := hiff.1 h 253402300800000000 (by simp [storedInstants, Scalar.storedInstants])
  exact absurd hplain (by decide)

end FieldType

end Backlog
