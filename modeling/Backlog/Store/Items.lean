import Backlog.Store.Extract
import Backlog.Store.Identities
import Backlog.Store.Types

/-!
# Items of the store

**Versions.** A new item has version 0, and every successful write of an item adds one. A checked
write fails when the caller's version is not the stored one.

**Deletion** hides an item for good: no operation finds it, and its id is never given again.
-/

namespace Backlog.Store

/-! ## Rows -/

/-- The id that a text writes: a positive decimal integer of 64 bits. -/
def itemId? (s : String) : Option Nat :=
  ((Decimal.readInt64? (Text.trim s)).filter (0 < ·)).map Int.toNat

def itemIdOf (id : String) : Action Nat :=
  match itemId? id with
  | some n => pure n
  | none => throw (.notFound .workItem id)

def ItemRow.readFields (r : ItemRow) : Except Error (Record Json) :=
  ((Json.Decoder.record .any).decodeText r.fieldsText).mapError fun f =>
    .internal ("stored json: " ++ f.message)

/-- The row of an item that is not deleted, if there is one and its columns can be read. -/
def findLive (id : Nat) (s : Store) : Except Error (Option ItemRow) :=
  match s.items.find? fun r => r.id = id ∧ r.deleted = false with
  | none => .ok none
  | some r =>
    match r.unreadable with
    | some reason => .error (.internal reason)
    | none => .ok (some r)

def liveRow (id : Nat) (given : String) : Action ItemRow := do
  match ← ofResult (findLive id (← get)) with
  | some r => return r
  | none => throw (.notFound .workItem given)

/-- The type that a stored row names. -/
def storedType (name : String) (s : Store) : Except Error ItemType :=
  match findType name s with
  | .error e => .error e
  | .ok (some t) => .ok t
  | .ok none => .error (.internal
      ("stored work item references missing type '" ++ name ++ "'"))

def idText (id : Nat) : String := String.ofList (Nat.toDigits 10 id)

/-- A row as callers see it. -/
def ItemRow.show (t : ItemType) (r : ItemRow) : Except Error WorkItem := do
  let stored ← ItemRow.readFields r
  let fields ← t.fields.toWire stored
  return ⟨idText r.id, r.typeName, r.version, fields, some r.created, some r.updated⟩

/-! ## Statements -/

/-- The text of stored values; a text that nests too deep cannot be stored. -/
def storedText (stored : Record Json) : Except Error String :=
  if (Json.ofRecord stored).depth ≤ Stored.depthLimit then .ok (Json.ofRecord stored).text
  else .error (checkFailed "json_valid(fields_json)")

/-- Versions are integers of 64 bits, beyond which they start again from the least. -/
def nextVersion (v : Int) : Int :=
  if v = 9223372036854775807 then -9223372036854775808 else v + 1

/-- Adds an item under the next id. -/
def insertItem (typeName : String) (stored : Record Json) (now : Int) : Action Nat := do
  statement fun s => do
    let text ← storedText stored
    let id := s.lastItem + 1
    return { s with
      items := s.items ++ [⟨id, typeName, 0, text, false, now, now, none⟩]
      lastItem := id }
  return (← get).lastItem

/-- Replaces the content of a row. -/
def updateItem (id : Nat) (typeName : String) (version : Int) (stored : Record Json) (now : Int) :
    Action Unit :=
  statement fun s => do
    if version < 0 then throw (checkFailed "version >= 0")
    let text ← storedText stored
    return { s with items := s.items.map fun r =>
      if r.id = id then
        { r with typeName := typeName, version := version, fieldsText := text, updated := now,
                 unreadable := none }
      else r }

/-! ## Operations -/

def createItem (scope : Scope) (now : Int) (typeName : String) (fields : Record Json)
    (creator : String) : Action WorkItem := do
  if (Text.trim typeName).isEmpty then
    throw (.badParameter "type" "type name must not be empty")
  if (Text.trim creator).isEmpty then
    throw (.badParameter "creator" "creator must not be empty")
  transaction scope do
    let t ← typeNamed typeName
    let stored ← ofResult (t.fields.toStorage (fields.insert WorkItem.creatorField (.str creator)))
    let id ← insertItem t.name stored now
    let shown ← ofResult (t.fields.toWire stored)
    return ⟨idText id, t.name, 0, shown, some now, some now⟩

def loadItem (id : String) : Action WorkItem := do
  let r ← liveRow (← itemIdOf id) id
  let t ← ofResult (storedType r.typeName (← get))
  ofResult (ItemRow.show t r)

/-- Writes stored values over a row and shows the item after it. -/
def writeRow (now : Int) (t : ItemType) (r : ItemRow) (stored : Record Json) : Action WorkItem := do
  let version := nextVersion r.version
  updateItem r.id t.name version stored now
  let shown ← ofResult (t.fields.toWire stored)
  return ⟨idText r.id, t.name, version, shown, some r.created, some now⟩

/-- Writes an item; `checked` demands that the caller has seen the stored version. -/
def saveItem (scope : Scope) (now : Int) (checked : Bool) (item : WorkItem) : Action WorkItem := do
  let id ← itemIdOf item.id
  transaction scope do
    let r ← liveRow id item.id
    if checked ∧ r.version ≠ item.version then
      throw (.versionConflict .workItem item.id (String.ofList (Json.intChars item.version))
        r.version)
    match ← ofResult (findType item.typeName (← get)) with
    | none =>
      throw (.badParameter "type" ("unknown work item type '" ++ item.typeName ++ "'"))
    | some t =>
      let stored ← ofResult (t.fields.toStorage item.fields)
      writeRow now t r stored

/-- Stored values with the assignee set to an identity, or taken away. -/
def assigned (stored : Record Json) (assignee : Option String) : Action (Record Json) := do
  match assignee with
  | none => return stored.erase WorkItem.assigneeField
  | some given =>
    match Uuid.read (Text.trim given) with
    | .error f =>
      throw (.badParameter "assignee" ("'" ++ given ++ "' is not a UUID: " ++ f.message))
    | .ok id =>
      if identityExists id (← get) then
        return stored.insert WorkItem.assigneeField (.str id.text)
      else throw (.notFound .identity id.text)

/-- Sets or clears the assignee. The version is compared as text before all else. -/
def assignItem (scope : Scope) (now : Int) (id version : String) (assignee : Option String) :
    Action WorkItem := do
  let key ← itemIdOf id
  transaction scope do
    let r ← liveRow key id
    if version ≠ String.ofList (Json.intChars r.version) then
      throw (.versionConflict .workItem id version r.version)
    let stored ← assigned (← ofResult (ItemRow.readFields r)) assignee
    let t ← ofResult (storedType r.typeName (← get))
    let wire ← ofResult (t.fields.toWire stored)
    let stored ← ofResult (t.fields.toStorage wire)
    writeRow now t r stored

/-- Hides a live item. -/
def deleteItem (now : Int) (id : String) : Action Unit := do
  let key ← itemIdOf id
  statement fun s =>
    if s.items.any fun r => r.id = key ∧ r.deleted = false then
      .ok { s with items := s.items.map fun r =>
        if r.id = key then { r with deleted := true, updated := now } else r }
    else .error (.notFound .workItem id)

/-! ## Lists -/

def liveItems (s : Store) : List ItemRow := s.items.filter fun r => !r.deleted

/-- Whether a predicate selects a row. -/
def selects (p : Predicate) (params : List Datum) (r : ItemRow) : Except Error Bool :=
  (p.settles params (Stored.lookAt r.fieldsText)).mapError .internal

/-- The rows that a predicate selects, in their order. -/
def selected (p : Predicate) (params : List Datum) : List ItemRow → Except Error (List ItemRow)
  | [] => .ok []
  | r :: rows => do
    let keep ← selects p params r
    let kept ← selected p params rows
    return if keep then r :: kept else kept

/-- Shows a row of a list. -/
def showListed (s : Store) (r : ItemRow) : Except Error WorkItem :=
  match r.unreadable with
  | some reason => .error (.internal reason)
  | none => do ItemRow.show (← storedType r.typeName s) r

/-- The live items that a filter selects, in the order of ids, and how many there are without the
window. Whether the store takes the statements for that is another matter (`listWithin`). -/
def listItems (filter : Filter) (offset limit : Option Nat) : Action (List WorkItem × Nat) := do
  let s ← get
  match filter.toPredicate [] with
  | (.error e, _) => throw e
  | (.ok p, params) =>
    let matching ← ofResult (selected p params (liveItems s))
    let rows ← ofResult (window offset limit matching)
    return (← ofResult (rows.mapM (showListed s)), matching.length)

/-! ## Counts -/

/-- The row names the iteration. -/
def refersTo (iteration : String) (r : ItemRow) : Bool :=
  Stored.lowered (Stored.extract r.fieldsText WorkItem.iterationField) = some iteration

def isClosed (r : ItemRow) : Bool :=
  Stored.extract r.fieldsText WorkItem.stateField = .text WorkItem.closedState

/-- The counts of one iteration, if any live item refers to it. -/
def countsOf (s : Store) (iteration : String) : Option ItemCounts :=
  let referring := (liveItems s).filter (refersTo iteration)
  if referring.isEmpty then none
  else some ⟨referring.length, (referring.filter isClosed).length⟩

def readCounts (row : String × ItemCounts) : Except Error (String × ItemCounts) :=
  match Uuid.read row.1 with
  | .ok id => .ok (id.text, row.2)
  | .error f => .error (.internal ("stored iteration id '" ++ row.1 ++ "': " ++ f.message))

/-- The counts of the iterations of a space that live items refer to, by id. -/
def itemCounts (space : Uuid) : Action (Record ItemCounts) := do
  let s ← get
  let ids := (s.iterations.filter (·.space = space.text)).map (·.id)
  let counted := Record.ofList (ids.filterMap fun id => (countsOf s id).map fun c => (id, c))
  return Record.ofList (← ofResult (counted.entries.mapM readCounts))

end Backlog.Store
