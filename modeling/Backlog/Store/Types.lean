import Backlog.Store.Window

/-!
# The registry of types

Types are registered once and stay. Registering a name again with the same field set gives the
registered type; with another field set it is refused.
-/

namespace Backlog.Store

def TypeRow.read (r : TypeRow) : Except Error ItemType :=
  match FieldSet.ofText r.fieldsText with
  | .ok fields => .ok ⟨r.name, r.version, fields⟩
  | .error f => .error (.malformedSchema f)

/-- The type of a name, if it is registered. -/
def findType (name : String) (s : Store) : Except Error (Option ItemType) :=
  match s.types.find? (·.name = name) with
  | none => .ok none
  | some r => (TypeRow.read r).map some

def typeNamed (name : String) : Action ItemType := do
  match ← ofResult (findType name (← get)) with
  | some t => return t
  | none => throw (.notFound .itemType name)

def loadType (name : String) : Action ItemType := typeNamed name

/-- The field set of a new type, with those of the type that it extends. -/
def mergedFields (extended : Option String) (own : FieldSet) : Action FieldSet := do
  match extended with
  | none => return own
  | some parent => return (← typeNamed parent).extendedFields own

def insertType (row : TypeRow) : Action Unit :=
  statement fun s => .ok { s with types := s.types ++ [row] }

def createType (scope : Scope) (extended : Option String) (name : String) (own : FieldSet) :
    Action ItemType := do
  ofResult (ItemType.checkName name)
  transaction scope do
    let merged ← mergedFields extended own
    match ← ofResult (findType name (← get)) with
    | some existing =>
      if existing.fields.same merged then return existing
      else
        throw (.badParameter "name"
          ("work item type '" ++ name ++ "' already exists with a different field set"))
    | none =>
      insertType ⟨name, 1, extended, merged.text⟩
      return ⟨name, 1, merged⟩

/-- Types in the order of their registration. -/
def listTypes (offset limit : Option Nat) : Action (List ItemType) := do
  let rows ← ofResult (window offset limit (← get).types)
  ofResult (rows.mapM TypeRow.read)

/-! ## Built-in types -/

/-- Registers types that extend the base type, one after the other. -/
def createExtending : List String → Action (List ItemType)
  | [] => return []
  | name :: names => do
    let t ← createType .joined (some Builtin.baseName) name .empty
    return t :: (← createExtending names)

/-- Registers the base type and then the named types that extend it. -/
def createBuiltin (names : List String) : Action (List ItemType) := do
  let base ← createType .joined none Builtin.baseName Builtin.baseFields
  return base :: (← createExtending names)

/-- Registers the built-in types. -/
def seedTypes (scope : Scope) : Action (List ItemType) :=
  transaction scope (createBuiltin Builtin.extendingNames)

end Backlog.Store
