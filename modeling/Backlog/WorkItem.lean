import Backlog.Json.Decoder

/-!
# Work items

A work item has an id, the name of its type, a version that counts its changes, and a record of
field values. The fields of the system start with `system.`.
-/

namespace Backlog

structure WorkItem where
  id : String
  typeName : String
  version : Int
  fields : Record Json
  createdMicros : Option Int := none
  updatedMicros : Option Int := none

namespace WorkItem

/-! ## Fields of the system -/

def titleField : String := "system.title"

def descriptionField : String := "system.description"

def stateField : String := "system.state"

def creatorField : String := "system.creator"

def assigneeField : String := "system.assignee"

def iterationField : String := "system.iteration"

def labelsField : String := "system.labels"

def newState : String := "new"

def closedState : String := "closed"

def states : List String := [newState, "open", "in progress", "resolved", closedState]

/-- The value of a field, where it has one other than `null`. -/
def field? (w : WorkItem) (name : String) : Option Json :=
  (w.fields.find? name).filter (!·.isNull)

def text? (w : WorkItem) (name : String) : Option String := (w.field? name).bind Json.string?

def title? (w : WorkItem) : Option String := w.text? titleField

def state? (w : WorkItem) : Option String := w.text? stateField

def assignee? (w : WorkItem) : Option String := w.text? assigneeField

/-! ## JSON -/

/-- A member of an object, left out where there is nothing to write. -/
def optionalMember {α : Type} (name : String) (x : Option α) (f : α → Json) :
    List (String × Json) :=
  match x with
  | some x => [(name, f x)]
  | none => []

def toJson (w : WorkItem) : Json :=
  .obj ([("id", .str w.id), ("type", .str w.typeName), ("version", .int w.version),
    ("fields", .ofRecord w.fields)] ++ optionalMember "created_at_us" w.createdMicros .int ++
    optionalMember "updated_at_us" w.updatedMicros .int)

structure Draft where
  id : Option String := none
  typeName : Option String := none
  version : Option Int := none
  fields : Option (Record Json) := none
  created : Option (Option Int) := none
  updated : Option (Option Int) := none

open Json (Decoder need) in
def layout : Json.Layout Draft WorkItem where
  title := "struct WorkItem"
  members := [
    ⟨"id", (·.id.isSome), Decoder.string.map fun x d => { d with id := some x }, false⟩,
    ⟨"type", (·.typeName.isSome), Decoder.string.map fun x d => { d with typeName := some x },
      false⟩,
    ⟨"version", (·.version.isSome), Decoder.int64.map fun x d => { d with version := some x },
      false⟩,
    ⟨"fields", (·.fields.isSome), (Decoder.record .any).map fun x d => { d with fields := some x },
      false⟩,
    ⟨"created_at_us", (·.created.isSome),
      (Decoder.optional .int64).map fun x d => { d with created := some x }, true⟩,
    ⟨"updated_at_us", (·.updated.isSome),
      (Decoder.optional .int64).map fun x d => { d with updated := some x }, true⟩]
  closed := false
  start := {}
  finish d := do
    let id ← need "id" d.id
    let typeName ← need "type" d.typeName
    let version ← need "version" d.version
    let fields ← need "fields" d.fields
    return ⟨id, typeName, version, fields, d.created.join, d.updated.join⟩

end WorkItem

end Backlog
