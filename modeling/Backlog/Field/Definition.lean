import Backlog.Field.Type

/-!
# Field definitions and field sets

A definition is a field type and whether the field has to have a value. A field set gives
definitions names.

**Tagged types.** In JSON a field type is an object: its `kind` says which other members it has.

**Two passes.** A definition is read first as an object with its type left as it is, then the type
is read by its kind.
-/

namespace Backlog

structure FieldDefinition where
  required : Bool
  type : FieldType

abbrev FieldSet := Record FieldDefinition

/-! ## What can be wrong with a schema -/

inductive SchemaFault
  | noKind
  | strangeKind (tag : Json)
  | payload (kind : Kind) (fault : Json.Fault)
  | refused (kind : Kind) (cause : ConversionError)
  | definition (fault : Json.Fault)
  | noType
  | setText (fault : Json.Fault)
  | setShape
  | field (name : String) (fault : SchemaFault)

def SchemaFault.message : SchemaFault → String
  | noKind => "field type is missing its \"kind\" discriminator"
  | strangeKind tag => "unrecognized field kind " ++ tag.text
  | payload kind fault => kind.name ++ " type: " ++ fault.message
  | refused kind cause => kind.name ++ " type: " ++ cause.message
  | definition fault => "field definition: " ++ fault.message
  | noType => "field definition is missing its \"type\""
  | setText fault => "field set: " ++ fault.message
  | setShape => "field set must be a JSON object"
  | field name fault => "field '" ++ name ++ "': " ++ fault.message

/-! ## Field types -/

namespace FieldType

/-- The values of an enumeration as callers see them. -/
def wireValues (c : Choices) : List Json :=
  c.values.map fun v => match c.base.toWire v with
    | .ok w => w
    | .error _ => v

def toJson : FieldType → Json
  | scalar s => .obj [("kind", (Kind.scalar s).toJson)]
  | enum c =>
    .obj [("kind", Kind.enum.toJson), ("base_kind", (Kind.scalar c.base).toJson),
      ("values", .arr (wireValues c))]
  | list s => .obj [("kind", Kind.list.toJson), ("element_kind", (Kind.scalar s).toJson)]

/-- The members that a tagged type may have. -/
structure Payload where
  kind : Option Kind := none
  other : Option Kind := none
  values : Option (List Json) := none

namespace Payload

open Json (Member Layout Decoder need)

def kindMember : Member Payload :=
  ⟨"kind", (·.kind.isSome), Kind.decoder.map fun k p => { p with kind := some k }, false⟩

def otherMember (name : String) : Member Payload :=
  ⟨name, (·.other.isSome), Kind.decoder.map fun k p => { p with other := some k }, false⟩

def valuesMember : Member Payload :=
  ⟨"values", (·.values.isSome), (Decoder.list .any).map fun vs p => { p with values := some vs },
    false⟩

def scalarLayout : Layout Payload Kind where
  title := "struct SimpleRepr"
  members := [kindMember]
  closed := true
  start := {}
  finish p := need "kind" p.kind

def listLayout : Layout Payload Kind where
  title := "struct ListRepr"
  members := [kindMember, otherMember "element_kind"]
  closed := true
  start := {}
  finish p := do
    let _ ← need "kind" p.kind
    need "element_kind" p.other

def enumLayout : Layout Payload (Kind × List Json) where
  title := "struct EnumRepr"
  members := [kindMember, otherMember "base_kind", valuesMember]
  closed := true
  start := {}
  finish p := do
    let _ ← need "kind" p.kind
    let base ← need "base_kind" p.other
    return (base, ← need "values" p.values)

end Payload

/-- Reads the members that the kind asks for, and builds the type of them. -/
def ofPayload (kind : Kind) (v : Json) : Except SchemaFault FieldType :=
  let built (r : Except ConversionError FieldType) : Except SchemaFault FieldType :=
    r.mapError (.refused kind)
  match kind with
  | .list => do built (listOf (← (Payload.listLayout.fromJson v).mapError (.payload kind)))
  | .enum => do
    let (base, values) ← (Payload.enumLayout.fromJson v).mapError (.payload kind)
    built (enumOf base values)
  | .scalar _ => do built (ofKind (← (Payload.scalarLayout.fromJson v).mapError (.payload kind)))

/-- Reads a tagged type. -/
def ofJson (v : Json) : Except SchemaFault FieldType :=
  match v.member? "kind" with
  | none => .error .noKind
  | some tag =>
    match Kind.decoder.fromJson tag with
    | .error _ => .error (.strangeKind tag)
    | .ok kind => ofPayload kind v

end FieldType

/-! ## Definitions -/

namespace FieldDefinition

def same (a b : FieldDefinition) : Bool := a.required == b.required && a.type.same b.type

def toJson (d : FieldDefinition) : Json :=
  .obj [("required", .bool d.required), ("type", d.type.toJson)]

/-- A definition whose type has not been read yet. -/
structure Envelope where
  required : Option Bool := none
  type : Option (Option Json) := none

namespace Envelope

open Json (Member Layout Decoder)

def layout : Layout Envelope Envelope where
  title := "struct RawFieldDefinition"
  members := [
    ⟨"required", (·.required.isSome),
      Decoder.boolean.map fun b e => { e with required := some b }, true⟩,
    ⟨"type", (·.type.isSome),
      (Decoder.optional .any).map fun t e => { e with type := some t }, false⟩]
  closed := false
  start := {}
  finish := .ok

end Envelope

def ofJson (v : Json) : Except SchemaFault FieldDefinition :=
  match Envelope.layout.fromJson v with
  | .error f => .error (.definition f)
  | .ok e =>
    match e.type.join with
    | none => .error .noType
    | some t => (FieldType.ofJson t).map fun type => ⟨e.required.getD false, type⟩

def ofText (s : String) : Except SchemaFault FieldDefinition :=
  match Json.parse s with
  | .error f => .error (.definition f)
  | .ok v => ofJson v

end FieldDefinition

/-! ## Field sets -/

namespace FieldSet

def same (a b : FieldSet) : Bool :=
  a.names == b.names && (a.entries.zip b.entries).all fun e => e.1.2.same e.2.2

def toJson (fs : FieldSet) : Json := Json.ofRecord (fs.map FieldDefinition.toJson)

def text (fs : FieldSet) : String := fs.toJson.text

/-- Reads the definitions of an object in the order of their names. -/
def ofEntries : List (String × Json) → Except SchemaFault (List (String × FieldDefinition))
  | [] => .ok []
  | (name, v) :: rest =>
    match FieldDefinition.ofJson v with
    | .error f => .error (.field name f)
    | .ok d => (ofEntries rest).map ((name, d) :: ·)

def ofText (s : String) : Except SchemaFault FieldSet :=
  match Json.parse s with
  | .error f => .error (.setText f)
  | .ok v =>
    match v.record? with
    | none => .error .setShape
    | some r => (ofEntries r.entries).map Record.ofList

/-- The union of a set with a set of its own fields, which win. -/
def extended (parent own : FieldSet) : FieldSet := parent.union own

end FieldSet

end Backlog
