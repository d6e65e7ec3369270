import Backlog.Proofs.Field.Schema

/-!
# How deep converted values nest

Field types take and give scalars and lists of scalars. So a conversion never changes how deep a
record nests, as far as that is deeper than a list in a record (`FieldSet.depth_convert_le_iff`).
-/

namespace Backlog

/-! ## Values -/

namespace Scalar

variable {s : Scalar} {v x : Json}

theorem depth_of_toStorage (h : s.toStorage v = .ok x) : v.depth = 0 ∧ x.depth = 0 := by
  constructor
  · cases v with
    | arr xs => cases s <;> cases h
    | obj ms => cases s <;> cases h
    | _ => rfl
  · cases s with
    | string | user | url | workItem | float =>
      obtain ⟨a, rfl⟩ := stores_of_toStorage h
      rfl
    | integer | duration =>
      obtain ⟨n, rfl, -⟩ := stores_of_toStorage h
      rfl
    | instant =>
      obtain ⟨us, t, rfl, -⟩ := stores_of_toStorage h
      rfl

theorem depth_of_shown (h : s.toWire v = .ok x) : v.depth = 0 := by
  cases v with
  | arr xs => cases s <;> cases h
  | obj ms => cases s <;> cases h
  | _ => rfl

end Scalar

theorem depth_of_convertList {f : Json → Scalar.Conversion} {expected : String} {v x : Json}
    (hf : ∀ {v x}, f v = .ok x → v.depth = 0 ∧ x.depth = 0) (h : convertList f expected v = .ok x) :
    v.depth ≤ 1 ∧ x.depth ≤ 1 := by
  obtain ⟨xs, ys, rfl, rfl, hpairs⟩ := convertList_eq_ok.1 h
  have hxs : Json.depth.depthItems xs ≤ 0 := by
    refine Json.depthItems_le_iff.2 fun x hx => ?_
    obtain ⟨y, -, hxy⟩ := exists_of_mem_left hpairs hx
    exact Nat.le_of_eq (hf hxy).1
  have hys : Json.depth.depthItems ys ≤ 0 := by
    refine Json.depthItems_le_iff.2 fun y hy => ?_
    obtain ⟨x, -, hxy⟩ := exists_of_mem_right hpairs hy
    exact Nat.le_of_eq (hf hxy).2
  rw [Json.depth, Json.depth]
  omega

namespace FieldType

variable {t : FieldType} {dir : Direction} {v x : Json}

/-- Neither what a field type takes nor what it gives nests deeper than a list. -/
theorem depth_of_convert (h : t.convert dir v = .ok x) (hv : v ≠ .null) :
    v.depth ≤ 1 ∧ x.depth ≤ 1 := by
  cases dir with
  | toStorage =>
    have hscalar {s : Scalar} {v x : Json} (h : s.toStorage v = .ok x) :
        v.depth = 0 ∧ x.depth = 0 := Scalar.depth_of_toStorage h
    rw [convert, toStorage_of_ne_null hv] at h
    cases t with
    | scalar s =>
      have := hscalar h
      omega
    | enum c =>
      have := hscalar (Choices.toStorage_eq_ok.1 h).1
      omega
    | list s => exact depth_of_convertList hscalar h
  | toWire =>
    have hscalar {s : Scalar} {v x : Json} (h : s.toWire v = .ok x) : v.depth = 0 ∧ x.depth = 0 :=
      ⟨Scalar.depth_of_shown h, Scalar.depth_of_toWire h⟩
    rw [convert, toWire_of_ne_null hv] at h
    cases t with
    | scalar s =>
      have := hscalar h
      omega
    | enum c =>
      have := hscalar (Choices.toWire_eq_ok.1 h).2
      omega
    | list s => exact depth_of_convertList hscalar h

end FieldType

/-! ## Records -/

theorem Record.depth_le_iff {r : Record Json} {n : Nat} : (Json.ofRecord r).depth ≤ n + 1 ↔
    ∀ name v, r.find? name = some v → v.depth ≤ n := by
  have hdepth : (Json.ofRecord r).depth = 1 + Json.depth.depthMembers r.entries := rfl
  have hmembers : (Json.ofRecord r).depth ≤ n + 1 ↔ Json.depth.depthMembers r.entries ≤ n := by
    omega
  rw [hmembers, Json.depthMembers_le_iff]
  constructor
  · intro h name v hv
    exact h (name, v) (Record.mem_entries_iff.2 hv)
  · intro h m hm
    exact h m.1 m.2 (Record.mem_entries_iff.1 hm)

theorem Record.depth_insert_le {r : Record Json} {n : Nat} (h : (Json.ofRecord r).depth ≤ n + 1)
    (name : String) {v : Json} (hv : v.depth ≤ n) :
    (Json.ofRecord (r.insert name v)).depth ≤ n + 1 := by
  rw [Record.depth_le_iff] at h ⊢
  intro other x hx
  rw [Record.find?_insert] at hx
  split at hx
  · cases hx
    exact hv
  · exact h other x hx

namespace FieldSet

variable {fs : FieldSet} {dir : Direction} {input out : Record Json}

/-- A conversion leaves a record as deep as it was, above the depth of a list. -/
theorem depth_convert_le_iff (h : fs.convert dir input = .ok out) {n : Nat} :
    (Json.ofRecord out).depth ≤ n + 2 ↔ (Json.ofRecord input).depth ≤ n + 2 := by
  have hname : ∀ name, (∀ v, out.find? name = some v → v.depth ≤ n + 1) ↔
      ∀ v, input.find? name = some v → v.depth ≤ n + 1 := by
    intro name
    have hname := convert_eq_ok.1 h name
    cases hd : fs.find? name with
    | none =>
      rw [hd] at hname
      rw [hname]
    | some d =>
      rw [hd] at hname
      obtain ⟨v, hv, hout⟩ := hname
      rw [hout]
      -- What is declared is shallow on both sides.
      rcases FieldDefinition.convert_eq_ok.1 hv with ⟨hinput, -, rfl⟩ | ⟨x, hx, hne, hconvert⟩
      · rcases hinput with hinput | hinput <;> simp [hinput, Json.isNull, Json.depth]
      · obtain ⟨hdeep, hshallow⟩ := FieldType.depth_of_convert hconvert hne
        rw [hx]
        refine iff_of_true (fun u hu => ?_) fun u hu => ?_
        · split at hu
          · cases hu
          · cases hu
            omega
        · cases hu
          omega
  simp only [Record.depth_le_iff, hname]

end FieldSet

end Backlog
