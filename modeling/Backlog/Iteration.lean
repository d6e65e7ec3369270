import Backlog.Calendar.Printer
import Backlog.Calendar.Reader
import Backlog.Uuid
import Backlog.WorkItem

/-!
# Iterations

An iteration is a stretch of work in a space. It is new, started or closed, and it may lie inside
another iteration.
-/

namespace Backlog

inductive IterationState
  | new
  | start
  | close
deriving DecidableEq, Inhabited

namespace IterationState

def all : List IterationState := [new, start, close]

def name : IterationState → String
  | new => "new"
  | start => "start"
  | close => "close"

/-- Reads a state by name or by its participle, in letters of either size and with blanks around
it. -/
def read? (s : String) : Option IterationState :=
  let name := Text.lower (Text.trim s)
  if name = "new" then some new
  else if name = "start" ∨ name = "started" then some start
  else if name = "close" ∨ name = "closed" then some close
  else none

def readMessage (s : String) : String := "invalid iteration state: '" ++ s ++ "'"

def toJson (s : IterationState) : Json := .str s.name

def decoder : Json.Decoder IterationState := .choice (all.map fun s => (s.name, s))

end IterationState

structure Iteration where
  id : Uuid
  spaceId : Uuid
  parentId : Option Uuid := none
  name : String
  description : Option String := none
  startAt : Option Moment := none
  endAt : Option Moment := none
  state : IterationState
deriving DecidableEq

/-- What a caller gives for a new iteration. -/
structure NewIteration where
  spaceId : Uuid
  name : String
  description : Option String := none
  startAt : Option Moment := none
  endAt : Option Moment := none

/-- How many live items an iteration has, and how many of them are closed. -/
structure ItemCounts where
  total : Nat
  closed : Nat
deriving DecidableEq

namespace Iteration

open WorkItem (optionalMember)

def toJson (i : Iteration) : Json :=
  .obj ([("id", .str i.id.text), ("space_id", .str i.spaceId.text)] ++
    optionalMember "parent_id" i.parentId (fun u => .str u.text) ++ [("name", .str i.name)] ++
    optionalMember "description" i.description .str ++
    optionalMember "start_at" i.startAt (fun t => .str t.text) ++
    optionalMember "end_at" i.endAt (fun t => .str t.text) ++ [("state", i.state.toJson)])

def momentDecoder : Json.Decoder Moment :=
  Json.Decoder.stringOf "an RFC 3339 formatted date and time string" fun s =>
    (Moment.readLoose s).mapError fun f => .custom f.message

structure Draft where
  id : Option Uuid := none
  spaceId : Option Uuid := none
  parentId : Option (Option Uuid) := none
  name : Option String := none
  description : Option (Option String) := none
  startAt : Option (Option Moment) := none
  endAt : Option (Option Moment) := none
  state : Option IterationState := none

open Json (Decoder need) in
def layout : Json.Layout Draft Iteration where
  title := "struct Iteration"
  members := [
    ⟨"id", (·.id.isSome), Uuid.decoder.map fun x d => { d with id := some x }, false⟩,
    ⟨"space_id", (·.spaceId.isSome), Uuid.decoder.map fun x d => { d with spaceId := some x },
      false⟩,
    ⟨"parent_id", (·.parentId.isSome),
      (Decoder.optional Uuid.decoder).map fun x d => { d with parentId := some x }, true⟩,
    ⟨"name", (·.name.isSome), Decoder.string.map fun x d => { d with name := some x }, false⟩,
    ⟨"description", (·.description.isSome),
      (Decoder.optional .string).map fun x d => { d with description := some x }, true⟩,
    ⟨"start_at", (·.startAt.isSome),
      (Decoder.optional momentDecoder).map fun x d => { d with startAt := some x }, true⟩,
    ⟨"end_at", (·.endAt.isSome),
      (Decoder.optional momentDecoder).map fun x d => { d with endAt := some x }, true⟩,
    ⟨"state", (·.state.isSome), IterationState.decoder.map fun x d => { d with state := some x },
      false⟩]
  closed := false
  start := {}
  finish d := do
    let id ← need "id" d.id
    let spaceId ← need "space_id" d.spaceId
    let name ← need "name" d.name
    let state ← need "state" d.state
    return ⟨id, spaceId, d.parentId.join, name, d.description.join, d.startAt.join, d.endAt.join,
      state⟩

end Iteration

end Backlog
