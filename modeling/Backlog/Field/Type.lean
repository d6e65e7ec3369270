import Backlog.Field.Conversion

/-!
# Field types

A field type says which values a field takes and converts them between their two shapes: a scalar,
an enumeration of scalar values, or a list of scalars.

**Enumerations** keep their values in storage shape, each once in the order of first occurrence;
the type carries the proof that they came from wire values. Whether a value is one of them is
decided after its conversion, by the equality of stored values.

`null` passes through every type.
-/

namespace Backlog

/-! ## Enumerations -/

/-- The values of an enumeration in storage shape. -/
structure Choices where
  base : Scalar
  values : List Json
  nonempty : values ≠ []
  distinct : values.Pairwise fun a b => a.same b = false
  stored : ∀ v ∈ values, ∃ w, base.toStorage w = .ok v

namespace Choices

/-- Converts wire values in order and keeps each stored value once. -/
def collect (base : Scalar) (kept : List Json) : List Json → Except ConversionError (List Json)
  | [] => .ok kept
  | w :: ws =>
    match base.toStorage w with
    | .error e => .error e
    | .ok v => collect base (if kept.any (·.same v) then kept else kept ++ [v]) ws

theorem collect_invariant {base : Scalar} {ws kept out : List Json}
    (h : collect base kept ws = .ok out) (hd : kept.Pairwise fun a b => a.same b = false)
    (hs : ∀ v ∈ kept, ∃ w, base.toStorage w = .ok v) :
    (out.Pairwise fun a b => a.same b = false) ∧ ∀ v ∈ out, ∃ w, base.toStorage w = .ok v := by
  induction ws generalizing kept with
  | nil => cases h; exact ⟨hd, hs⟩
  | cons w ws ih =>
    rw [collect] at h
    split at h
    · cases h
    next v hv =>
      refine ih h ?_ ?_
      · split
        · exact hd
        next hk =>
          simp only [List.any_eq_true, not_exists, not_and, Bool.not_eq_true] at hk
          exact List.pairwise_append.2 ⟨hd, List.pairwise_singleton .., by simpa using hk⟩
      · split
        · exact hs
        · intro x hx
          rcases List.mem_append.1 hx with hx | hx
          · exact hs x hx
          · exact ⟨w, by rw [List.mem_singleton.1 hx, hv]⟩

/-- The enumeration of wire values, of which there has to be one at least. -/
def ofWire (base : Scalar) (ws : List Json) : Except ConversionError Choices :=
  match h : collect base [] ws with
  | .error e => .error e
  | .ok values =>
    if hne : values = [] then .error .emptyEnum
    else
      have inv := collect_invariant h .nil (by simp)
      .ok ⟨base, values, hne, inv.1, inv.2⟩

/-- A stored value is one of the enumeration. -/
def allows (c : Choices) (v : Json) : Bool := c.values.any (·.same v)

def toStorage (c : Choices) (v : Json) : Scalar.Conversion :=
  match c.base.toStorage v with
  | .error e => .error e
  | .ok s => if c.allows s then .ok s else .error (.notAllowed v c.values)

def toWire (c : Choices) (v : Json) : Scalar.Conversion :=
  if c.allows v then c.base.toWire v else .error (.notAllowed v c.values)

end Choices

/-! ## Lists -/

/-- Converts elements in order; the first that fails is named by its index. -/
def convertItems (convert : Json → Scalar.Conversion) :
    Nat → List Json → Except ConversionError (List Json)
  | _, [] => .ok []
  | i, x :: xs =>
    match convert x with
    | .error e => .error (.element i e)
    | .ok y => (convertItems convert (i + 1) xs).map (y :: ·)

def convertList (convert : Json → Scalar.Conversion) (expected : String) (v : Json) :
    Scalar.Conversion :=
  match v with
  | .arr xs => (convertItems convert 0 xs).map .arr
  | v => .error (.shape expected v)

/-! ## Types -/

inductive FieldType
  | scalar (s : Scalar)
  | enum (choices : Choices)
  | list (element : Scalar)

namespace FieldType

def kind : FieldType → Kind
  | scalar s => .scalar s
  | enum _ => .enum
  | list _ => .list

/-- The scalar kind of a kind, where it is one. -/
def simple (k : Kind) : Except ConversionError Scalar :=
  match k with
  | .scalar s => .ok s
  | k => .error (.notSimple k)

def ofKind (k : Kind) : Except ConversionError FieldType := (simple k).map scalar

def listOf (k : Kind) : Except ConversionError FieldType := (simple k).map list

def enumOf (k : Kind) (values : List Json) : Except ConversionError FieldType :=
  match simple k with
  | .error e => .error e
  | .ok s => (Choices.ofWire s values).map enum

def toStorage (t : FieldType) (v : Json) : Scalar.Conversion :=
  if v.isNull then .ok .null
  else
    match t with
    | scalar s => s.toStorage v
    | enum c => c.toStorage v
    | list s => convertList s.toStorage Kind.list.wireShape v

def toWire (t : FieldType) (v : Json) : Scalar.Conversion :=
  if v.isNull then .ok .null
  else
    match t with
    | scalar s => s.toWire v
    | enum c => c.toWire v
    | list s => convertList s.toWire Kind.list.storageShape v

/-- The same variant with the same configuration. -/
def same : FieldType → FieldType → Bool
  | scalar a, scalar b => a == b
  | enum a, enum b => a.base == b.base && Json.sameItems a.values b.values
  | list a, list b => a == b
  | _, _ => false

end FieldType

end Backlog
