import Backlog.Filter.Basic

/-!
# Filters in JSON

`"true"` is the filter that selects all. Every other filter is an object with one member, named
for what the filter is.
-/

namespace Backlog

namespace CompareOp

def toJson (op : CompareOp) : Json := .str op.name

def decoder : Json.Decoder CompareOp := .choice (all.map fun op => (op.name, op))

end CompareOp

namespace Filter

/-! ## Writing -/

mutual

def toJson : Filter → Json
  | all => .str "true"
  | compare field op value =>
    .obj [("compare", .obj [("field", .str field), ("op", op.toJson), ("value", value)])]
  | isNull field => .obj [("is_null", .str field)]
  | and terms => .obj [("and", .arr (toJsonTerms terms))]
  | or terms => .obj [("or", .arr (toJsonTerms terms))]
  | not inner => .obj [("not", toJson inner)]

def toJsonTerms : List Filter → List Json
  | [] => []
  | f :: fs => toJson f :: toJsonTerms fs

end

/-! ## Reading -/

/-- The forms of a filter. -/
inductive Form
  | all | compare | isNull | and | or | not
deriving DecidableEq

def forms : List (String × Form) :=
  [("true", .all), ("compare", .compare), ("is_null", .isNull), ("and", .and), ("or", .or),
    ("not", .not)]

structure Comparison where
  field : Option String := none
  op : Option CompareOp := none
  value : Option Json := none

open Json (Decoder need) in
def comparisonLayout : Json.Layout Comparison Filter where
  title := "struct variant Expression::Compare"
  members := [
    ⟨"field", (·.field.isSome), Decoder.string.map fun x c => { c with field := some x }, false⟩,
    ⟨"op", (·.op.isSome), CompareOp.decoder.map fun x c => { c with op := some x }, false⟩,
    ⟨"value", (·.value.isSome), Decoder.any.map fun x c => { c with value := some x }, false⟩]
  closed := false
  start := {}
  finish c := do
    let field ← need "field" c.field
    let op ← need "op" c.op
    return .compare field op (← need "value" c.value)

/-- A form that was named without what it carries. -/
def bare : Form → Except Json.Fault Filter
  | .all => .ok .all
  | .compare => .error (.invalidType "unit variant" "struct variant")
  | _ => .error (.invalidType "unit variant" "newtype variant")

/-- A filter in a text, given how an object is read on behind its brace. -/
def readOf (object : Json.Reader Filter) : Json.Reader Filter := fun cs =>
  match Json.skipSpace cs with
  | [] => .error .endInValue
  | '"' :: rest => do
    let (name, rest) ← Json.string rest
    return (← bare (← Json.Decoder.choose forms name), rest)
  | '\x7b' :: rest => object rest
  | _ => .error .expectedValue

/-- A list of filters in a text, given how it is read on behind its bracket. -/
def readTerms (terms : Json.Reader (List Filter)) : Json.Reader (List Filter) := fun cs =>
  match Json.skipSpace cs with
  | '[' :: rest => terms rest
  | cs => Json.Decoder.mismatch "a sequence" cs

/-- The object of a filter behind its brace, with so many levels left inside it. -/
def readObject (depth : Nat) (terms : Json.Reader (List Filter)) (inner : Json.Reader Filter) :
    Json.Reader Filter := fun cs => do
  let (form, rest) ← Json.Decoder.choiceKey forms cs
  let (f, rest) ← match form with
    | .all => do
      let (_, rest) ← Json.Decoder.unit.fromText depth rest
      pure (Filter.all, rest)
    | .compare => comparisonLayout.fromText depth rest
    | .isNull => do
      let (field, rest) ← Json.Decoder.string.fromText depth rest
      pure (Filter.isNull field, rest)
    | .and => do
      let (fs, rest) ← readTerms terms rest
      pure (Filter.and fs, rest)
    | .or => do
      let (fs, rest) ← readTerms terms rest
      pure (Filter.or fs, rest)
    | .not => do
      let (f, rest) ← inner rest
      pure (Filter.not f, rest)
  return (f, ← Json.Decoder.closeChoice rest)

/-- A filter in a text with so many levels left. -/
def fromText : Nat → Json.Reader Filter
  | 0 => readOf fun _ => .error .tooDeep
  | 1 => readOf (readObject 0 (fun _ => .error .tooDeep) (fromText 0))
  | depth + 2 => readOf (readObject (depth + 1) (Json.items (fromText depth)) (fromText (depth + 1)))

mutual

/-- A filter in a value that has been read. -/
def fromJson : Json → Except Json.Fault Filter
  | .str name => do bare (← Json.Decoder.choose forms name)
  | .obj [(name, v)] => do
    match ← Json.Decoder.choose forms name with
    | .all => (Json.Decoder.unit.fromJson v).map fun _ => .all
    | .compare =>
      match v with
      | .obj ms => comparisonLayout.fromObject ms
      | v => .error (.invalidType v.found "struct variant")
    | .isNull => (Json.Decoder.string.fromJson v).map .isNull
    | .and =>
      match v with
      | .arr xs => (fromJsonTerms xs).map .and
      | v => .error (.invalidType v.found "a sequence")
    | .or =>
      match v with
      | .arr xs => (fromJsonTerms xs).map .or
      | v => .error (.invalidType v.found "a sequence")
    | .not => (fromJson v).map .not
  | .obj _ => .error (.invalidValue "map" "map with a single key")
  | v => .error (.invalidType v.found "string or map")

def fromJsonTerms : List Json → Except Json.Fault (List Filter)
  | [] => .ok []
  | v :: vs => do
    let f ← fromJson v
    return f :: (← fromJsonTerms vs)

end

def decoder : Json.Decoder Filter := ⟨fromText, fromJson⟩

end Filter

end Backlog
