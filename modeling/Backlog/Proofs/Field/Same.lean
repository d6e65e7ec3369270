import Backlog.Proofs.Field.Depth

/-!
# Definitions that are the same

Definitions count as the same if they are equal, but for the sign of a zero among the values of an
enumeration.

**Main statements.** Sameness carries over (`FieldDefinition.same_trans`), and so does being read as
it was written (`FieldDefinition.readAsWritten_of_same`): two floating numbers of the same value are
equal, or they are zeros, which keep their sign.
-/

namespace Backlog

/-! ## Floating numbers -/

namespace Binary64

variable {x y : Binary64}

theorem units_eq_zero : x.units = 0 ↔ x.significand = 0 := by
  simp only [units, Nat.pow_eq]
  split <;> simp

/-- Of two numbers of one magnitude, none has the smaller exponent: the significand of the other
would have to be below the full width. -/
theorem exponent_le_of_magnitude_eq
    (h : x.significand * 2 ^ (x.exponent + 1074).toNat =
      y.significand * 2 ^ (y.exponent + 1074).toNat) : y.exponent ≤ x.exponent := by
  obtain ⟨hx, hxleast, -, -⟩ := x.canonical
  obtain ⟨-, -, -, hy⟩ := y.canonical
  by_contra hlt
  obtain ⟨d, hd⟩ : ∃ d, (y.exponent + 1074).toNat = (x.exponent + 1074).toNat + 1 + d :=
    ⟨(y.exponent - x.exponent - 1).toNat, by omega⟩
  have hwide : 4503599627370496 ≤ y.significand := by
    by_contra hnarrow
    have hleast := hy (by omega)
    omega
  have hsignificand : x.significand = y.significand * (2 * 2 ^ d) := by
    refine Nat.eq_of_mul_eq_mul_right (Nat.two_pow_pos (x.exponent + 1074).toNat) ?_
    rw [h, hd, pow_add, pow_succ]
    ac_rfl
  have hdouble : y.significand * 2 ≤ y.significand * (2 * 2 ^ d) :=
    Nat.mul_le_mul_left _ (Nat.le_mul_of_pos_right 2 (Nat.two_pow_pos d))
  omega

theorem eq_of_units_eq (h : x.units = y.units) (hx : x.significand ≠ 0) : x = y := by
  have hmagnitude : x.negative = y.negative ∧ x.significand * 2 ^ (x.exponent + 1074).toNat =
      y.significand * 2 ^ (y.exponent + 1074).toNat := by
    have hpos : 0 < x.significand * 2 ^ (x.exponent + 1074).toNat :=
      Nat.mul_pos (Nat.pos_iff_ne_zero.2 hx) (Nat.two_pow_pos _)
    simp only [units, Nat.pow_eq] at h
    generalize x.significand * 2 ^ (x.exponent + 1074).toNat = m at *
    generalize y.significand * 2 ^ (y.exponent + 1074).toNat = n at *
    cases hxs : x.negative <;> cases hys : y.negative <;> simp [hxs, hys] at h ⊢ <;> omega
  obtain ⟨hsign, hmagnitude⟩ := hmagnitude
  have hexponent : x.exponent = y.exponent :=
    Int.le_antisymm (exponent_le_of_magnitude_eq hmagnitude.symm)
      (exponent_le_of_magnitude_eq hmagnitude)
  have hsignificand : x.significand = y.significand := by
    rw [hexponent] at hmagnitude
    exact Nat.eq_of_mul_eq_mul_right (Nat.two_pow_pos _) hmagnitude
  obtain ⟨_, _, _, _⟩ := x
  obtain ⟨_, _, _, _⟩ := y
  cases hsign
  cases hexponent
  cases hsignificand
  rfl

theorem eq_zero (hx : x.significand = 0) : x = zero x.negative := by
  obtain ⟨negative, significand, exponent, canonical⟩ := x
  obtain rfl : significand = 0 := hx
  obtain rfl : exponent = -1074 := canonical.2.2.2 (by omega)
  rfl

/-- The number, with the positive sign if it is a zero. -/
def unsigned (x : Binary64) : Binary64 := if x.significand = 0 then zero false else x

theorem units_unsigned (x : Binary64) : x.unsigned.units = x.units := by
  rw [unsigned]
  split
  next hx => rw [units_eq_zero.2 hx, units_eq_zero.2 rfl]
  · rfl

theorem same_iff : x.same y = true ↔ x.unsigned = y.unsigned := by
  rw [same, beq_iff_eq]
  constructor
  · intro h
    by_cases hx : x.significand = 0
    · have hy : y.significand = 0 := units_eq_zero.1 (h.symm.trans (units_eq_zero.2 hx))
      rw [unsigned, unsigned, if_pos hx, if_pos hy]
    · rw [eq_of_units_eq h hx]
  · intro h
    rw [← units_unsigned x, h, units_unsigned]

theorem reread?_zero (negative : Bool) : (zero negative).reread? = some (zero negative) := by
  cases negative <;> decide +kernel

/-- A number is read as it was written if one of the same value is. -/
theorem reread?_of_same (h : x.same y = true) (hy : y.reread? = some y) : x.reread? = some x := by
  by_cases hx : x.significand = 0
  · rw [eq_zero hx]
    exact reread?_zero _
  · rw [same, beq_iff_eq] at h
    rwa [eq_of_units_eq h hx]

end Binary64

/-! ## Values -/

namespace Json

variable {v w : Json} {vs ws : List Json}

/-- The value, with the positive sign if it is a floating zero. -/
def unsigned : Json → Json
  | float x => float x.unsigned
  | v => v

/-- Sameness where the second value is no array and no object. -/
theorem same_iff (hw : w.depth = 0) : v.same w = true ↔ v.unsigned = w.unsigned := by
  cases w with
  | arr | obj =>
    rw [depth] at hw
    omega
  | float y => cases v <;> simp [same, unsigned, Binary64.same_iff]
  | _ => cases v <;> simp [same, unsigned]

theorem sameItems_iff (hws : ∀ w ∈ ws, w.depth = 0) :
    sameItems vs ws = true ↔ vs.map unsigned = ws.map unsigned := by
  induction vs generalizing ws with
  | nil => cases ws <;> simp [sameItems]
  | cons v vs ih =>
    cases ws with
    | nil => simp [sameItems]
    | cons w ws =>
      rw [List.forall_mem_cons] at hws
      rw [sameItems, Bool.and_eq_true, same_iff hws.1, ih hws.2, List.map_cons, List.map_cons,
        List.cons.injEq]

/-- A value is read as it was written if a value that is the same is. -/
theorem reread?_of_unsigned_eq (h : v.unsigned = w.unsigned) (hw : w.reread? = some w) :
    v.reread? = some v := by
  cases v with
  | float x =>
    cases w with
    | float y =>
      have hsame : x.unsigned = y.unsigned := Json.float.inj h
      have hy : y.reread? = some y := by
        obtain ⟨y', hy', heq⟩ := Option.map_eq_some_iff.1 hw
        rwa [Json.float.inj heq] at hy'
      exact congrArg (Option.map float) (Binary64.reread?_of_same (Binary64.same_iff.2 hsame) hy)
    | _ => cases h
  | null | bool | int | str => rfl
  | arr | obj =>
    obtain rfl : _ = w := by
      cases w <;> first | exact h | cases h
    exact hw

/-- What is the same as a value other than a floating number is that value. -/
theorem eq_of_unsigned_eq (h : v.unsigned = w.unsigned) (hw : ∀ x, w ≠ float x) : v = w := by
  cases w with
  | float x => exact absurd rfl (hw x)
  | _ => cases v <;> first | exact h | cases h

theorem eq_of_map_unsigned_eq (h : vs.map unsigned = ws.map unsigned)
    (hws : ∀ w ∈ ws, ∀ x, w ≠ float x) : vs = ws := by
  induction vs generalizing ws with
  | nil => exact (List.map_eq_nil_iff.1 h.symm).symm
  | cons v vs ih =>
    obtain ⟨w, ws, rfl⟩ : ∃ w ws', ws = w :: ws' := by
      cases ws with
      | nil => cases h
      | cons w ws => exact ⟨w, ws, rfl⟩
    rw [List.map_cons, List.map_cons, List.cons.injEq] at h
    rw [List.forall_mem_cons] at hws
    rw [eq_of_unsigned_eq h.1 hws.1, ih h.2 hws.2]

end Json

/-! ## Definitions -/

/-- None of the values is a floating number. -/
def Choices.NoFloats (c : Choices) : Prop := ∀ v ∈ c.values, ∀ x, v ≠ .float x

theorem Choices.depth_of_mem {c : Choices} {v : Json} (hv : v ∈ c.values) : v.depth = 0 := by
  obtain ⟨w, hw⟩ := c.stored v hv
  exact (Scalar.depth_of_toStorage hw).2

theorem Choices.sameItems_iff {vs : List Json} {c : Choices} :
    Json.sameItems vs c.values = true ↔ vs.map Json.unsigned = c.values.map Json.unsigned :=
  Json.sameItems_iff fun _ => depth_of_mem

namespace FieldType

variable {t t' : FieldType}

/-- What sameness compares: the kind, the scalar in it, and the values without signs of zeros. -/
def form : FieldType → Kind × Option Scalar × List Json
  | scalar s => (.scalar s, none, [])
  | enum c => (.enum, some c.base, c.values.map Json.unsigned)
  | list s => (.list, some s, [])

theorem same_iff : t.same t' = true ↔ t.form = t'.form := by
  cases t <;> cases t' <;> simp [same, form, Choices.sameItems_iff]

theorem readAsWritten_of_same (h : t.same t' = true) (ht' : t'.ChoicesHave Choices.ReadAsWritten) :
    t.ChoicesHave Choices.ReadAsWritten := by
  intro c hc v hv
  subst hc
  cases t' with
  | scalar | list => cases h
  | enum c' =>
    have hvalues : c.values.map Json.unsigned = c'.values.map Json.unsigned :=
      (Prod.mk.inj (Prod.mk.inj (same_iff.1 h)).2).2
    have hmem : v.unsigned ∈ c'.values.map Json.unsigned := hvalues ▸ List.mem_map_of_mem hv
    obtain ⟨w, hw, heq⟩ := List.mem_map.1 hmem
    exact Json.reread?_of_unsigned_eq heq.symm (ht' c' rfl w hw)

theorem eq_of_same (h : t.same t' = true) (ht' : t'.ChoicesHave Choices.NoFloats) : t = t' := by
  cases t <;> cases t' <;> simp only [same, reduceCtorEq, Bool.and_eq_true, beq_iff_eq] at h
  case scalar.scalar | list.list => rw [h]
  case enum.enum c c' =>
    obtain ⟨hbase, hvalues⟩ := h
    have heq : c.values = c'.values :=
      Json.eq_of_map_unsigned_eq (Choices.sameItems_iff.1 hvalues) (ht' c' rfl)
    obtain ⟨base, values, _, _, _⟩ := c
    obtain ⟨base', values', _, _, _⟩ := c'
    cases hbase
    cases heq
    rfl

end FieldType

namespace FieldDefinition

variable {d d' d'' : FieldDefinition}

theorem same_iff : d.same d' = true ↔ d.required = d'.required ∧ d.type.form = d'.type.form := by
  rw [same, Bool.and_eq_true, beq_iff_eq, FieldType.same_iff]

theorem same_trans (h : d.same d' = true) (h' : d'.same d'' = true) : d.same d'' = true := by
  rw [same_iff] at h h' ⊢
  exact ⟨h.1.trans h'.1, h.2.trans h'.2⟩

theorem readAsWritten_of_same (h : d.same d' = true)
    (hd' : d'.type.ChoicesHave Choices.ReadAsWritten) :
    d.type.ChoicesHave Choices.ReadAsWritten :=
  FieldType.readAsWritten_of_same (FieldType.same_iff.2 (same_iff.1 h).2) hd'

theorem eq_of_same (h : d.same d' = true) (hd' : d'.type.ChoicesHave Choices.NoFloats) :
    d = d' := by
  obtain ⟨required, type⟩ := d
  obtain ⟨required', type'⟩ := d'
  obtain ⟨hrequired, htype⟩ := same_iff.1 h
  cases hrequired
  cases FieldType.eq_of_same (FieldType.same_iff.2 htype) hd'
  rfl

/-- What is read from the text of a definition is the definition where values are read as they were
written. -/
theorem Redecodes.eq_of_readAsWritten (h : d.Redecodes d')
    (hd : d.type.ChoicesHave Choices.ReadAsWritten) : d' = d := by
  have hyears := (exists_redecodes_iff d).1 ⟨d', h⟩
  obtain ⟨y, hy, hself⟩ := (redecodes_self_iff d).2 ⟨hd, hyears.2⟩
  obtain ⟨y', hy', hread⟩ := h
  obtain rfl : y = y' := Option.some.inj (hy.symm.trans hy')
  exact Except.ok.inj (hread.symm.trans hself)

end FieldDefinition

/-! ## Field sets -/

/-- Two records with the same names, and related values under each of them. -/
theorem Record.find?_of_forall₂ {α β : Type} {R : α → β → Prop} {r : Record α} {r' : Record β}
    (h : List.Forall₂ (fun e e' => e'.1 = e.1 ∧ R e.2 e'.2) r.entries r'.entries) (name : String) :
    Option.Rel R (r.find? name) (r'.find? name) := by
  unfold find?
  generalize r.entries = l at h
  generalize r'.entries = l' at h
  induction h with
  | nil => exact .none
  | @cons e e' l l' he _ ih =>
    obtain ⟨k, x⟩ := e
    obtain ⟨k', y⟩ := e'
    obtain ⟨rfl, hR⟩ := he
    rw [lookup, lookup]
    split
    · exact .some hR
    · exact ih

namespace FieldSet

variable {fs gs : FieldSet}

theorem forall₂_of_same (h : gs.same fs = true) :
    List.Forall₂ (fun e e' => e'.1 = e.1 ∧ e'.2.same e.2 = true) fs.entries gs.entries := by
  rw [same, Bool.and_eq_true, beq_iff_eq, Record.names, Record.names] at h
  obtain ⟨hnames, hall⟩ := h
  generalize gs.entries = l at hnames hall
  generalize fs.entries = l' at hnames hall
  induction l generalizing l' with
  | nil => cases l' with
    | nil => exact .nil
    | cons => cases hnames
  | cons e l ih => cases l' with
    | nil => cases hnames
    | cons e' l' =>
      rw [List.map_cons, List.map_cons, List.cons.injEq] at hnames
      rw [List.zip_cons_cons, List.all_cons, Bool.and_eq_true] at hall
      exact .cons ⟨hnames.1, hall.1⟩ (ih _ hnames.2 hall.2)

theorem find?_of_same (h : gs.same fs = true) (name : String) :
    Option.Rel (fun d e => e.same d = true) (fs.find? name) (gs.find? name) :=
  Record.find?_of_forall₂ (forall₂_of_same h) name

/-- What is the same as a set without floating numbers is that set. -/
theorem eq_of_same (h : gs.same fs = true) (hfs : fs.ChoicesHave Choices.NoFloats) : gs = fs := by
  refine Record.ext_find? fun name => ?_
  have hrel := find?_of_same h name
  have hfs := hfs name
  generalize fs.find? name = found at hrel hfs
  generalize gs.find? name = found' at hrel
  cases hrel with
  | none => rfl
  | some hsame => rw [FieldDefinition.eq_of_same hsame (hfs _ rfl)]

theorem find?_of_ofText (h : ofText fs.text = .ok gs) (name : String) :
    Option.Rel FieldDefinition.Redecodes (fs.find? name) (gs.find? name) :=
  Record.find?_of_forall₂ (ofText_text_eq_ok.1 h) name

/-- In a set that extends another, its own definition of a name wins. -/
theorem find?_extended (parent own : FieldSet) (name : String) :
    (parent.extended own).find? name = (own.find? name).or (parent.find? name) := by
  rw [extended, Record.union, Record.foldl_insert_find?, ← Record.find?_ofList,
    Record.ofList_entries]

end FieldSet

end Backlog
