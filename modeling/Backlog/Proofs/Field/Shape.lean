import Backlog.Field.Type
import Backlog.Proofs.Calendar.Text

/-!
# The shape of stored values

`FieldType.Stores` says which values a field type keeps: the storage shape of its kind, members of
an enumeration, elements of a list each in shape.

**Main statements.** `FieldType.stores_of_toStorage`: what is converted to storage has the shape.
`FieldType.Stores.toWire`: what has the shape can be shown.
-/

namespace Backlog

/-! ## Parts of values -/

namespace Json

theorem int64?_eq_some {v : Json} {n : Int} :
    v.int64? = some n ↔ v = .int n ∧ Decimal.IsInt64 n := by
  cases v with
  | int m =>
    simp only [int64?, Option.ite_none_right_eq_some, Option.some.injEq, int.injEq]
    constructor
    · intro h
      obtain ⟨h, rfl⟩ := h
      exact ⟨rfl, h⟩
    · intro h
      obtain ⟨rfl, h⟩ := h
      exact ⟨h, rfl⟩
  | _ => simp [int64?]

theorem isNull_eq_false {v : Json} : v.isNull = false ↔ v ≠ .null := by
  cases v <;> simp [isNull]

theorem isNull_eq_true {v : Json} : v.isNull = true ↔ v = .null := by
  cases v <;> simp [isNull]

end Json

/-! ## Scalars -/

namespace Scalar

/-- The storage shape of a kind. -/
def Stores : Scalar → Json → Prop
  | string, v | user, v | url, v | workItem, v => ∃ s, v = .str s
  | integer, v | duration, v => ∃ n, v = .int n ∧ Decimal.IsInt64 n
  | float, v => ∃ x, v = .float x
  | instant, v => ∃ us t, v = .int us ∧ Decimal.IsInt64 us ∧ Moment.ofMicros? us = some t

theorem require_eq_ok {α : Type} {expected : String} {v x : Json} {part : Option α} {f : α → Json} :
    require expected v part f = .ok x ↔ ∃ a, part = some a ∧ x = f a := by
  cases part with
  | none => simp [require]
  | some a => simp [require, eq_comm]

/-- A decimal number has no blanks to trim. -/
theorem trim_toDigits (n : Nat) :
    Text.trim (String.ofList (Nat.toDigits 10 n)) = String.ofList (Nat.toDigits 10 n) := by
  have hplain : ∀ c ∈ Nat.toDigits 10 n, Text.isBlank c = false := by
    intro c hc
    have hdigit := Char.isDigit_iff_toNat.1 (IsDigits.toDigits n c hc)
    simp only [Char.reduceToNat] at hdigit
    simp only [Text.isBlank, Bool.or_eq_false_iff, Bool.and_eq_false_iff, decide_eq_false_iff_not,
      beq_eq_false_iff_ne]
    omega
  apply Text.trim_eq_self
  · intro c hc
    exact hplain c (by simpa using List.mem_of_mem_head? hc)
  · intro c hc
    exact hplain c (by simpa using List.mem_of_getLast? hc)

/-- The id of an item is kept as a text that is trimmed and not empty. -/
theorem itemIdToStorage_eq_ok {v x : Json} (h : itemIdToStorage v = .ok x) :
    ∃ s, x = .str s ∧ Text.trim s = s ∧ s.isEmpty = false := by
  rw [itemIdToStorage.eq_def] at h
  split at h
  next s =>
    split at h
    · cases h
    next hne =>
      cases h
      exact ⟨_, rfl, Text.trim_trim s, Bool.eq_false_iff.2 hne⟩
  · obtain ⟨n, -, rfl⟩ := require_eq_ok.1 h
    refine ⟨_, rfl, trim_toDigits n, ?_⟩
    simp [Nat.toDigits_ne_nil]

theorem instantToStorage_eq_ok {v x : Json} (h : instantToStorage v = .ok x) :
    ∃ us t, x = .int us ∧ Decimal.IsInt64 us ∧ Moment.ofMicros? us = some t := by
  rw [instantToStorage.eq_def] at h
  split at h
  · split at h
    next t ht =>
      cases h
      obtain ⟨u, hu⟩ := Moment.ofMicros?_micros_of_readStrict ht
      exact ⟨t.micros, u, rfl, Moment.isInt64_of_ofMicros? hu, hu⟩
    · cases h
  · cases h

theorem urlToStorage_eq_ok {v x : Json} :
    urlToStorage v = .ok x ↔ ∃ s, v = .str s ∧ x = .str s ∧ Url.check s = .ok () := by
  cases v with
  | str s =>
    simp only [urlToStorage]
    split
    next h => simp [h, eq_comm]
    next h => simp [h]
  | _ => simp [urlToStorage]

theorem stores_of_toStorage {s : Scalar} {v x : Json} (h : s.toStorage v = .ok x) :
    s.Stores x := by
  cases s with
  | string | user =>
    obtain ⟨a, -, rfl⟩ := require_eq_ok.1 h
    exact ⟨a, rfl⟩
  | integer | duration =>
    obtain ⟨n, hn, rfl⟩ := require_eq_ok.1 h
    exact ⟨n, rfl, (Json.int64?_eq_some.1 hn).2⟩
  | float =>
    obtain ⟨a, -, rfl⟩ := require_eq_ok.1 h
    exact ⟨a, rfl⟩
  | instant => exact instantToStorage_eq_ok h
  | url =>
    obtain ⟨a, -, rfl, -⟩ := urlToStorage_eq_ok.1 h
    exact ⟨a, rfl⟩
  | workItem =>
    obtain ⟨a, rfl, -⟩ := itemIdToStorage_eq_ok h
    exact ⟨a, rfl⟩

theorem Stores.ne_null {s : Scalar} {x : Json} (h : s.Stores x) : x ≠ .null := by
  cases s with
  | string | user | url | workItem | float => obtain ⟨_, rfl⟩ := h; simp
  | integer | duration => obtain ⟨_, rfl, -⟩ := h; simp
  | instant => obtain ⟨_, _, rfl, -⟩ := h; simp

/-- A value in storage shape can be shown. Only an instant is shown as something else. -/
theorem Stores.toWire {s : Scalar} {x : Json} (h : s.Stores x) :
    ∃ w, s.toWire x = .ok w ∧ w ≠ .null ∧ (s ≠ .instant → w = x) := by
  cases s with
  | string | user | url | workItem | float =>
    obtain ⟨a, rfl⟩ := h
    exact ⟨_, rfl, by simp, fun _ => rfl⟩
  | integer | duration =>
    obtain ⟨n, rfl, hn⟩ := h
    exact ⟨.int n, require_eq_ok.2 ⟨n, Json.int64?_eq_some.2 ⟨rfl, hn⟩, rfl⟩, by simp, fun _ => rfl⟩
  | instant =>
    obtain ⟨us, t, rfl, hus, ht⟩ := h
    refine ⟨.str t.microText, ?_, by simp, by simp⟩
    simp only [Scalar.toWire, instantToWire, Json.int64?_eq_some.2 ⟨rfl, hus⟩, ht]

end Scalar

/-! ## Lists -/

/-- A list converts exactly if each of its elements does. -/
theorem convertItems_eq_ok {f : Json → Scalar.Conversion} {i : Nat} {xs ys : List Json} :
    convertItems f i xs = .ok ys ↔ List.Forall₂ (fun x y => f x = .ok y) xs ys := by
  induction xs generalizing i ys with
  | nil => simp [convertItems, eq_comm]
  | cons x xs ih =>
    rw [convertItems, List.forall₂_cons_left_iff]
    cases hx : f x with
    | error e => simp
    | ok y =>
      simp only [map_eq_ok, ih, Except.ok.injEq]
      constructor
      · intro h
        obtain ⟨zs, hzs, rfl⟩ := h
        exact ⟨y, zs, rfl, hzs, rfl⟩
      · intro h
        obtain ⟨_, zs, rfl, hzs, rfl⟩ := h
        exact ⟨zs, hzs, rfl⟩

theorem convertList_eq_ok {f : Json → Scalar.Conversion} {expected : String} {v x : Json} :
    convertList f expected v = .ok x ↔
      ∃ xs ys, v = .arr xs ∧ x = .arr ys ∧ List.Forall₂ (fun x y => f x = .ok y) xs ys := by
  cases v with
  | arr xs =>
    simp only [convertList, map_eq_ok, convertItems_eq_ok, Json.arr.injEq]
    constructor
    · intro h
      obtain ⟨ys, hys, rfl⟩ := h
      exact ⟨xs, ys, rfl, rfl, hys⟩
    · intro h
      obtain ⟨_, ys, rfl, rfl, hys⟩ := h
      exact ⟨ys, hys, rfl⟩
  | _ => simp [convertList]

/-! ## Field types -/

theorem Choices.toStorage_eq_ok {c : Choices} {v x : Json} :
    c.toStorage v = .ok x ↔ c.base.toStorage v = .ok x ∧ c.allows x = true := by
  rw [Choices.toStorage.eq_def]
  cases c.base.toStorage v with
  | error e => simp
  | ok y =>
    simp only [Except.ok.injEq]
    split
    next h =>
      constructor
      · intro hok
        cases hok
        exact ⟨rfl, h⟩
      · intro hmem
        obtain ⟨rfl, -⟩ := hmem
        rfl
    next h =>
      simp only [reduceCtorEq, false_iff]
      intro hmem
      obtain ⟨rfl, hy⟩ := hmem
      exact h hy

theorem Choices.toWire_eq_ok {c : Choices} {v w : Json} :
    c.toWire v = .ok w ↔ c.allows v = true ∧ c.base.toWire v = .ok w := by
  rw [Choices.toWire]
  split <;> simp_all

namespace FieldType

/-- The values that a field type keeps. -/
def Stores : FieldType → Json → Prop
  | scalar s, v => s.Stores v
  | enum c, v => c.base.Stores v ∧ c.allows v = true
  | list s, v => ∃ xs, v = .arr xs ∧ ∀ x ∈ xs, s.Stores x

theorem Stores.ne_null {t : FieldType} {x : Json} (h : t.Stores x) : x ≠ .null := by
  cases t with
  | scalar s => exact Scalar.Stores.ne_null h
  | enum c => exact Scalar.Stores.ne_null h.1
  | list s => obtain ⟨xs, rfl, -⟩ := h; simp

theorem toStorage_of_ne_null {t : FieldType} {v : Json} (h : v ≠ .null) :
    t.toStorage v = match t with
      | scalar s => s.toStorage v
      | enum c => c.toStorage v
      | list s => convertList s.toStorage Kind.list.wireShape v := by
  cases t <;> simp only [toStorage, Json.isNull_eq_false.2 h, Bool.false_eq_true, if_false]

theorem toWire_of_ne_null {t : FieldType} {v : Json} (h : v ≠ .null) :
    t.toWire v = match t with
      | scalar s => s.toWire v
      | enum c => c.toWire v
      | list s => convertList s.toWire Kind.list.storageShape v := by
  cases t <;> simp only [toWire, Json.isNull_eq_false.2 h, Bool.false_eq_true, if_false]

/-- What is converted to storage has the shape of the type. -/
theorem stores_of_toStorage {t : FieldType} {v x : Json} (h : t.toStorage v = .ok x)
    (hv : v ≠ .null) : t.Stores x := by
  rw [toStorage_of_ne_null hv] at h
  cases t with
  | scalar s => exact Scalar.stores_of_toStorage h
  | enum c =>
    obtain ⟨hbase, hallows⟩ := Choices.toStorage_eq_ok.1 h
    exact ⟨Scalar.stores_of_toStorage hbase, hallows⟩
  | list s =>
    obtain ⟨xs, ys, -, rfl, hys⟩ := convertList_eq_ok.1 h
    refine ⟨ys, rfl, fun y hy => ?_⟩
    obtain ⟨x, -, hxy⟩ := exists_of_mem_right hys hy
    exact Scalar.stores_of_toStorage hxy

/-- What has the shape of the type can be shown. -/
theorem Stores.toWire {t : FieldType} {x : Json} (h : t.Stores x) :
    ∃ w, t.toWire x = .ok w ∧ w ≠ .null := by
  rw [toWire_of_ne_null h.ne_null]
  cases t with
  | scalar s =>
    obtain ⟨w, hw, hne, -⟩ := Scalar.Stores.toWire h
    exact ⟨w, hw, hne⟩
  | enum c =>
    obtain ⟨w, hw, hne, -⟩ := Scalar.Stores.toWire h.1
    exact ⟨w, Choices.toWire_eq_ok.2 ⟨h.2, hw⟩, hne⟩
  | list s =>
    obtain ⟨xs, rfl, hxs⟩ := h
    have hall : ∀ x ∈ xs, ∃ w, s.toWire x = .ok w := fun x hx =>
      let ⟨w, hw, _⟩ := Scalar.Stores.toWire (hxs x hx)
      ⟨w, hw⟩
    obtain ⟨ws, hws⟩ := exists_forall₂ hall
    exact ⟨.arr ws, convertList_eq_ok.2 ⟨xs, ws, rfl, rfl, hws⟩, by simp⟩

end FieldType

end Backlog
