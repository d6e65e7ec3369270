import Backlog.Builtin
import Backlog.Identity
import Backlog.Iteration

/-!
# The store

A store holds four tables: types, items, identities and iterations. Rows stand in the order in
which they were made, and hold what is written to them as texts and numbers.

**Actions** change a store or fail. A statement that fails has no effect; a transaction that
fails takes back what its statements did. Inside an open transaction another one joins it.
-/

namespace Backlog

/-! ## Rows -/

structure TypeRow where
  name : String
  version : Int
  parent : Option String
  fieldsText : String
deriving DecidableEq

structure ItemRow where
  id : Nat
  typeName : String
  version : Int
  fieldsText : String
  deleted : Bool
  created : Int
  updated : Int
  /-- Why the row cannot be read, where a column was overwritten with another type of value. -/
  unreadable : Option String := none
deriving DecidableEq

structure IdentityRow where
  id : String
  fullName : String
  imageUrl : Option String
deriving DecidableEq

structure IterationRow where
  id : String
  space : String
  parent : Option String
  name : String
  description : Option String
  start : Option Int
  stop : Option Int
  state : String
  created : Int
  unreadable : Option String := none
deriving DecidableEq

structure Store where
  types : List TypeRow := []
  items : List ItemRow := []
  /-- The greatest id that an item has had. -/
  lastItem : Nat := 0
  identities : List IdentityRow := []
  iterations : List IterationRow := []
deriving DecidableEq, Inhabited

namespace Store

def empty : Store := {}

/-! ## Actions -/

abbrev Action (α : Type) := ExceptT Error (StateM Store) α

/-- The answer of an action and the store after it. -/
def Action.runOn {α : Type} (a : Action α) (s : Store) : Except Error α × Store :=
  (ExceptT.run a).run s

/-- Looks at the store. -/
def look {α : Type} (f : Store → α) : Action α := return f (← get)

/-- Takes a result or fails. -/
def ofResult {α : Type} (r : Except Error α) : Action α :=
  match r with
  | .ok x => pure x
  | .error e => throw e

/-- One statement: changes the store or fails without an effect. -/
def statement (f : Store → Except Error Store) : Action Unit := do
  match f (← get) with
  | .ok s => set s
  | .error e => throw e

/-- Takes back the effects of an action that fails. -/
def atomically {α : Type} (a : Action α) : Action α := ExceptT.mk do
  let before ← get
  let r ← ExceptT.run a
  match r with
  | .ok x => return .ok x
  | .error e =>
    set before
    return .error e

/-- Whether a transaction stands on its own or joins an open one. -/
inductive Scope
  | own
  | joined
deriving DecidableEq

/-- Runs an action as a transaction; one that joins another leaves taking back to that. -/
def transaction {α : Type} (scope : Scope) (a : Action α) : Action α :=
  match scope with
  | .own => atomically a
  | .joined => a

/-- The end of a group of operations that began at `before`. Given up for a reason, it takes its
effects back, unless it had joined a larger one. -/
def conclude (scope : Scope) (before after : Store) (reason : Option String) :
    Except Error Unit × Store :=
  match reason, scope with
  | none, _ => (.ok (), after)
  | some reason, .own => (.error (.internal reason), before)
  | some reason, .joined => (.error (.internal reason), after)

/-! ## Faults of statements -/

def checkFailed (condition : String) : Error :=
  .internal ("CHECK constraint failed: " ++ condition)

def uniqueFailed (column : String) : Error :=
  .internal ("UNIQUE constraint failed: " ++ column)

def foreignKeyFailed : Error := .internal "FOREIGN KEY constraint failed"

/-- A text that is more than spaces up to its first NUL. -/
def hasContent (s : String) : Bool :=
  match s.toList.dropWhile (· = ' ') with
  | [] => false
  | c :: _ => c.toNat ≠ 0

end Store

end Backlog
