import Backlog.Field.Values
import Backlog.Text.Letter

/-!
# Types of work items

A type has a name of letters and dots, a version and a field set. A type that extends another has
the other's fields and its own, and its own win.
-/

namespace Backlog

structure ItemType where
  name : String
  version : Int
  fields : FieldSet

namespace ItemType

/-- The field set of a type that extends this one. -/
def extendedFields (t : ItemType) (own : FieldSet) : FieldSet := FieldSet.extended t.fields own

def checkName (name : String) : Except Error Unit :=
  if name.isEmpty then .error (.badParameter "name" "type name must not be empty")
  else if name.toList.all fun c => c = '.' || Text.isLetter c then .ok ()
  else
    .error (.badParameter "name"
      ("type name '" ++ name ++ "' may contain only letters and dots"))

/-! ## JSON -/

def toJson (t : ItemType) : Json :=
  .obj [("name", .str t.name), ("version", .int t.version), ("fields", t.fields.toJson)]

/-- A definition that is part of a larger text. -/
def definitionDecoder : Json.Decoder FieldDefinition :=
  .ofJson fun v => (FieldDefinition.ofJson v).mapError fun f =>
    .custom (Error.malformedSchema f).message

structure Draft where
  name : Option String := none
  version : Option Int := none
  fields : Option FieldSet := none

open Json (Decoder need) in
def layout : Json.Layout Draft ItemType where
  title := "struct WorkItemType"
  members := [
    ⟨"name", (·.name.isSome), Decoder.string.map fun x d => { d with name := some x }, false⟩,
    ⟨"version", (·.version.isSome), Decoder.int64.map fun x d => { d with version := some x },
      false⟩,
    ⟨"fields", (·.fields.isSome),
      (Decoder.record definitionDecoder).map fun x d => { d with fields := some x }, false⟩]
  closed := false
  start := {}
  finish d := do
    let name ← need "name" d.name
    let version ← need "version" d.version
    return ⟨name, version, ← need "fields" d.fields⟩

end ItemType

end Backlog
