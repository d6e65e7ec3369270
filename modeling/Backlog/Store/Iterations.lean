import Backlog.Store.Basic

/-!
# Iterations of the store

At most one iteration of a space is started. The store refuses every write that would start a
second one; `canStart` says so beforehand.
-/

namespace Backlog.Store

/-! ## Rows -/

def storedUuid (s : String) : Except Error Uuid :=
  (Uuid.read s).mapError fun f => .internal ("stored uuid '" ++ s ++ "': " ++ f.message)

def storedMoment (us : Int) : Except Error Moment :=
  match Moment.ofMicros? us with
  | some t => .ok t
  | none => .error (.internal
      ("stored timestamp " ++ String.ofList (Json.intChars us) ++ " out of range"))

/-- Applies a reading to a value that may be missing. -/
def readOptional {α β : Type} (f : α → Except Error β) : Option α → Except Error (Option β)
  | none => .ok none
  | some x => (f x).map some

def IterationRow.read (r : IterationRow) : Except Error Iteration := do
  if let some reason := r.unreadable then throw (.internal reason)
  let id ← storedUuid r.id
  let space ← storedUuid r.space
  let parent ← readOptional storedUuid r.parent
  let start ← readOptional storedMoment r.start
  let stop ← readOptional storedMoment r.stop
  match IterationState.read? r.state with
  | none => throw (.internal ("stored iteration state: " ++ IterationState.readMessage r.state))
  | some state => return ⟨id, space, parent, r.name, r.description, start, stop, state⟩

def findIteration (id : Uuid) (s : Store) : Except Error (Option Iteration) :=
  match s.iterations.find? (·.id = id.text) with
  | none => .ok none
  | some r => (IterationRow.read r).map some

def iterationNamed (id : Uuid) : Action Iteration := do
  match ← ofResult (findIteration id (← get)) with
  | some i => return i
  | none => throw (.notFound .iteration id.text)

/-! ## One started iteration for each space -/

def alreadyStarted (space : Uuid) : Error :=
  .badParameter "state" ("space " ++ space.text ++ " already has a started iteration")

/-- Another iteration of the space is started. -/
def otherStarted (id space : String) (s : Store) : Bool :=
  s.iterations.any fun r => r.space = space ∧ r.state = IterationState.start.name ∧ r.id ≠ id

def canStart (i : Iteration) : Action Bool := do
  if otherStarted i.id.text i.spaceId.text (← get) then throw (alreadyStarted i.spaceId)
  return true

/-! ## Statements -/

/-- The parent of an iteration is there, or is the iteration itself. -/
def hasParent (i : Iteration) (s : Store) : Bool :=
  match i.parentId with
  | none => true
  | some p => p = i.id || s.iterations.any (·.id = p.text)

/-- What the columns of a row demand. -/
def checkIteration (i : Iteration) (s : Store) : Except Error Unit :=
  if ¬ hasContent i.name then .error (checkFailed "length(trim(name)) > 0")
  else if i.state = .start ∧ otherStarted i.id.text i.spaceId.text s then
    .error (alreadyStarted i.spaceId)
  else if ¬ hasParent i s then .error foreignKeyFailed
  else .ok ()

def rowOf (i : Iteration) (created : Int) : IterationRow :=
  { id := i.id.text, space := i.spaceId.text, parent := i.parentId.map Uuid.text, name := i.name,
    description := i.description, start := i.startAt.map Moment.micros,
    stop := i.endAt.map Moment.micros, state := i.state.name, created := created }

def insertIteration (now : Int) (i : Iteration) : Action Unit :=
  statement fun s => do
    if ¬ hasContent i.name then throw (checkFailed "length(trim(name)) > 0")
    if s.iterations.any (·.id = i.id.text) then throw (uniqueFailed "iterations.iteration_id")
    checkIteration i s
    return { s with iterations := s.iterations ++ [rowOf i now] }

def updateIteration (i : Iteration) : Action Unit :=
  statement fun s => do
    checkIteration i s
    return { s with iterations := s.iterations.map fun r =>
      if r.id = i.id.text then rowOf i r.created else r }

/-! ## Operations -/

/-- A new iteration under a fresh id. -/
def draft (id space : Uuid) (parent : Option Uuid) (new : NewIteration) :
    Except Error Iteration :=
  let name := Text.trim new.name
  if name.isEmpty then .error (.badParameter "name" "iteration name must not be empty")
  else .ok ⟨id, space, parent, name, new.description, new.startAt, new.endAt, .new⟩

def createIteration (id : Uuid) (now : Int) (new : NewIteration) : Action Iteration := do
  let i ← ofResult (draft id new.spaceId none new)
  insertIteration now i
  return i

/-- A new iteration under a parent, in the parent's space. -/
def createChild (scope : Scope) (id : Uuid) (now : Int) (parent : Uuid) (new : NewIteration) :
    Action Iteration :=
  transaction scope do
    let above ← iterationNamed parent
    let i ← ofResult (draft id above.spaceId (some above.id) new)
    insertIteration now i
    return i

def loadIteration (id : Uuid) : Action Iteration := iterationNamed id

/-- The order in which iterations were made. -/
def IterationRow.le (a b : IterationRow) : Bool := a.created ≤ b.created

def listIterations (space : Uuid) : Action (List Iteration) := do
  let rows := (← get).iterations.filter (·.space = space.text)
  ofResult ((rows.mergeSort IterationRow.le).mapM IterationRow.read)

/-- Writes every column of an iteration. -/
def saveIteration (scope : Scope) (i : Iteration) : Action Iteration :=
  transaction scope do
    let _ ← iterationNamed i.id
    updateIteration i
    return i

/-- Moves an iteration to a state. -/
def moveIteration (scope : Scope) (id : Uuid) (state : IterationState) : Action Iteration :=
  transaction scope do
    let i ← iterationNamed id
    if state = .start then let _ ← canStart i
    let i := { i with state := state }
    updateIteration i
    return i

end Backlog.Store
