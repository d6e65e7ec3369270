import Backlog.Command.Fields
import Backlog.Config
import Backlog.Store.Script

/-!
# Scripts of commands

What each command asks of the store of its project. The ids and the time that a command needs are
drawn beforehand.
-/

namespace Backlog

/-- How the answer of a command is looked at. -/
inductive View
  | plain
  | page (p : Page)
  | inSpace (space : Uuid)
  | deletionOf (id : String)

structure Result where
  answer : Store.Answer
  view : View := .plain

/-- What a command draws before it runs. -/
structure Fresh where
  now : Int
  id : Uuid
  space : Uuid

namespace Command

open Store (Operation Script)

abbrev ResultScript := Script (Except Failure Result)

def refuse (f : Failure) : ResultScript := .done (.error f)

/-- Goes on with a value or ends with its failure. -/
def withValue {α : Type} (r : Except Failure α) (next : α → ResultScript) : ResultScript :=
  match r with
  | .ok x => next x
  | .error f => refuse f

/-- Asks one operation and shows its answer. -/
def askLast (op : Operation) (view : View := .plain) : ResultScript :=
  .ask op fun r => .done ((r.map fun a => ⟨a, view⟩).mapError (.refused []))

/-- The fields of a new item; without a state it is new. -/
def newFields (fields : Record Json) : Record Json :=
  if fields.contains WorkItem.stateField then fields
  else fields.insert WorkItem.stateField (.str WorkItem.newState)

/-- An item as it is to be written: based on a version, with changed fields and perhaps another
type. -/
def changed (item : WorkItem) (version : Int) (typeName : Option String) (values : Record Json) :
    WorkItem :=
  { item with
    version := version
    typeName := typeName.getD item.typeName
    fields := FieldArguments.applyTo values item.fields }

/-- Loads an item, changes it and writes it back under the version it is based on. -/
def updateScript (now : Int) (id : String) (version : Int) (typeName : Option String)
    (fields : FieldArguments) : ResultScript :=
  .ask (.loadItem id) fun r =>
    match r with
    | .error e => refuse (.refused [] e)
    | .ok (.item item) =>
      withValue fields.read fun values =>
        askLast (.saveItem now true (changed item version typeName values))
    | .ok answer => .done (.ok ⟨answer, .plain⟩)

def listScript (paging : PagingConfig) (filter offset limit : Option String) : ResultScript :=
  let read : Except Error Filter := match filter with
    | none => .ok .all
    | some s => Filter.ofText s
  withValue (read.mapError (.refused [])) fun filter =>
    let page := Page.read offset limit paging
    askLast (.listItems filter (some page.offset) (some page.limit)) (.page page)

/-- What a command asks of a store; to make a project is no matter of one. -/
def script (paging : PagingConfig) (fresh : Fresh) : Command → ResultScript
  | init _ => askLast .seedTypes
  | createType name extended fields =>
    let own := (FieldSet.ofText fields).mapError fun f =>
      Failure.refused ["--fields"] (.malformedSchema f)
    withValue own fun own => askLast (.createType extended name own)
  | showType name => askLast (.loadType name)
  | listTypes offset limit => askLast (.listTypes offset limit)
  | createItem typeName creator fields =>
    withValue fields.read fun values =>
      askLast (.createItem fresh.now typeName (newFields values) creator)
  | showItem id => askLast (.loadItem id)
  | listItems filter offset limit => listScript paging filter offset limit
  | updateItem id version typeName fields => updateScript fresh.now id version typeName fields
  | assignItem id version assignee => askLast (.assignItem fresh.now id version assignee)
  | deleteItem id => askLast (.deleteItem fresh.now id) (.deletionOf id)
  | createIteration name space parent description startAt endAt =>
    let new : NewIteration := ⟨space.getD fresh.space, name, description, startAt, endAt⟩
    match parent with
    | some parent => askLast (.createChild fresh.id fresh.now parent new)
    | none => askLast (.createIteration fresh.id fresh.now new)
  | showIteration id => askLast (.loadIteration id)
  | listIterations space => askLast (.listIterations space) (.inSpace space)
  | startIteration id => askLast (.moveIteration id .start)
  | closeIteration id => askLast (.moveIteration id .close)
  | countItems space => askLast (.itemCounts space)
  | createIdentity fullName imageUrl => askLast (.createIdentity fresh.id fullName imageUrl)
  | listIdentities => askLast .listIdentities

end Command

end Backlog
