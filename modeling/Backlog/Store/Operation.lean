import Backlog.Filter.Predicate
import Backlog.Store.Iterations
import Backlog.Store.Statement

/-!
# Operations of the store

What callers can ask of a store, as data, and what they get for it. The ids and the times that an
operation needs come with it, so a run of operations is determined by the store it starts from.

**Timing.** An operation is timed under a name once its arguments have been looked at; those that
are refused before that leave no sample.
-/

namespace Backlog.Store

inductive Operation
  | seedTypes
  | createType (extended : Option String) (name : String) (own : FieldSet)
  | loadType (name : String)
  | listTypes (offset limit : Option Nat)
  | createIdentity (id : Uuid) (fullName : String) (imageUrl : Option String)
  | loadIdentity (id : Uuid)
  | identityExists (id : Uuid)
  | listIdentities
  | createItem (now : Int) (typeName : String) (fields : Record Json) (creator : String)
  | loadItem (id : String)
  | saveItem (now : Int) (checked : Bool) (item : WorkItem)
  | assignItem (now : Int) (id version : String) (assignee : Option String)
  | deleteItem (now : Int) (id : String)
  | listItems (filter : Filter) (offset limit : Option Nat)
  | itemCounts (space : Uuid)
  | createIteration (id : Uuid) (now : Int) (new : NewIteration)
  | createChild (id : Uuid) (now : Int) (parent : Uuid) (new : NewIteration)
  | loadIteration (id : Uuid)
  | listIterations (space : Uuid)
  | canStart (iteration : Iteration)
  | saveIteration (iteration : Iteration)
  | moveIteration (id : Uuid) (state : IterationState)

inductive Answer
  | done
  | flag (b : Bool)
  | itemType (t : ItemType)
  | itemTypes (ts : List ItemType)
  | identity (i : Identity)
  | identities (is : List Identity)
  | item (w : WorkItem)
  | items (ws : List WorkItem) (total : Nat)
  | counts (r : Record ItemCounts)
  | iteration (i : Iteration)
  | iterations (is : List Iteration)

namespace Operation

/-- What an operation does. Transactions in it stand on their own or join an open one. -/
def action (scope : Scope) : Operation → Action Answer
  | seedTypes => .itemTypes <$> Store.seedTypes scope
  | createType extended name own => .itemType <$> Store.createType scope extended name own
  | loadType name => .itemType <$> Store.loadType name
  | listTypes offset limit => .itemTypes <$> Store.listTypes offset limit
  | createIdentity id fullName imageUrl =>
    .identity <$> Store.createIdentity id fullName imageUrl
  | loadIdentity id => .identity <$> Store.loadIdentity id
  | identityExists id => .flag <$> look (Store.identityExists id)
  | listIdentities => .identities <$> Store.listIdentities
  | createItem now typeName fields creator =>
    .item <$> Store.createItem scope now typeName fields creator
  | loadItem id => .item <$> Store.loadItem id
  | saveItem now checked item => .item <$> Store.saveItem scope now checked item
  | assignItem now id version assignee =>
    .item <$> Store.assignItem scope now id version assignee
  | deleteItem now id => (fun _ => .done) <$> Store.deleteItem now id
  | listItems filter offset limit =>
    (fun r => .items r.1 r.2) <$> listWithin filter offset limit
  | itemCounts space => .counts <$> Store.itemCounts space
  | createIteration id now new => .iteration <$> Store.createIteration id now new
  | createChild id now parent new => .iteration <$> Store.createChild scope id now parent new
  | loadIteration id => .iteration <$> Store.loadIteration id
  | listIterations space => .iterations <$> Store.listIterations space
  | canStart iteration => .flag <$> Store.canStart iteration
  | saveIteration iteration => .iteration <$> Store.saveIteration scope iteration
  | moveIteration id state => .iteration <$> Store.moveIteration scope id state

/-- One operation on its own: its answer and the store after it. -/
def run (op : Operation) (s : Store) : Except Error Answer × Store := (op.action .own).runOn s

end Operation

/-! ## Runs -/

/-- The answers of operations one after the other, and the store after them. -/
def run : List Operation → Store → List (Except Error Answer) × Store
  | [], s => ([], s)
  | op :: ops, s =>
    let (answer, next) := op.run s
    let (answers, last) := run ops next
    (answer :: answers, last)

/-- A store that operations can lead to from the empty one. -/
def Reachable (s : Store) : Prop := ∃ ops, (run ops empty).2 = s

/-! ## Names of samples -/

def succeeds {α : Type} (a : Action α) (s : Store) : Bool := (a.runOn s).1.toBool

/-- How many types seeding gets to: the base type, and every other one before which all went
well. -/
def seedAttempts (s : Store) : Nat :=
  1 + (List.range Builtin.extendingNames.length).countP fun k =>
    succeeds (createBuiltin (Builtin.extendingNames.take k)) s

/-- A name that is recorded where arguments pass a first look. -/
def sampleIf (passes : Bool) (name : String) : List String := if passes then [name] else []

/-- The names under which an operation is timed. -/
def Operation.samples (s : Store) : Operation → List String
  | seedTypes => List.replicate (seedAttempts s) "db.work_item_type.create"
  | createType _ name _ => sampleIf (ItemType.checkName name).toBool "db.work_item_type.create"
  | loadType _ => ["db.work_item_type.load"]
  | listTypes _ _ => ["db.work_item_type.list"]
  | createIdentity _ fullName _ =>
    sampleIf (!(Text.trim fullName).isEmpty) "db.identity.create"
  | loadIdentity _ => ["db.identity.load"]
  | identityExists _ => []
  | listIdentities => ["db.identity.list"]
  | createItem _ typeName _ creator =>
    sampleIf (!(Text.trim typeName).isEmpty && !(Text.trim creator).isEmpty)
      "db.work_item.create"
  | loadItem _ => ["db.work_item.load"]
  | saveItem _ checked _ =>
    [if checked then "db.work_item.save_checked" else "db.work_item.save"]
  | assignItem .. => ["db.work_item.update_assignee"]
  | deleteItem .. => ["db.work_item.delete"]
  | listItems .. => ["db.work_item.list"]
  | itemCounts _ => ["db.work_item.counts_per_iteration"]
  | createIteration .. => ["db.iteration.create"]
  | createChild .. => ["db.iteration.create_child"]
  | loadIteration _ => ["db.iteration.load"]
  | listIterations _ => ["db.iteration.list"]
  | canStart _ => ["db.iteration.can_start"]
  | saveIteration _ => ["db.iteration.save"]
  | moveIteration .. => ["db.iteration.transition"]

end Backlog.Store
