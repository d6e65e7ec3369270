import Backlog.Uuid
import Backlog.WorkItem

/-!
# Identities

A person or service that work items are assigned to.
-/

namespace Backlog

structure Identity where
  id : Uuid
  fullName : String
  imageUrl : Option String := none
deriving DecidableEq

namespace Identity

def toJson (i : Identity) : Json :=
  .obj ([("id", .str i.id.text), ("full_name", .str i.fullName)] ++
    WorkItem.optionalMember "image_url" i.imageUrl .str)

structure Draft where
  id : Option Uuid := none
  fullName : Option String := none
  imageUrl : Option (Option String) := none

open Json (Decoder need) in
def layout : Json.Layout Draft Identity where
  title := "struct Identity"
  members := [
    ⟨"id", (·.id.isSome), Uuid.decoder.map fun x d => { d with id := some x }, false⟩,
    ⟨"full_name", (·.fullName.isSome), Decoder.string.map fun x d => { d with fullName := some x },
      false⟩,
    ⟨"image_url", (·.imageUrl.isSome),
      (Decoder.optional .string).map fun x d => { d with imageUrl := some x }, true⟩]
  closed := false
  start := {}
  finish d := do
    let id ← need "id" d.id
    return ⟨id, ← need "full_name" d.fullName, d.imageUrl.join⟩

end Identity

end Backlog
