/-!
# Schema of the store

Two migrations bring a store up to date: the first makes the tables, the second the indexes on
them. A store counts the migrations that it has been through.
-/

namespace Backlog

/-- What a store has so far. -/
structure Schema where
  hasTables : Bool
  hasIndexes : Bool
  /-- The version that the store has noted in its own table. -/
  recorded : Option Int
  /-- The count of migrations. -/
  version : Int
deriving DecidableEq, Inhabited

namespace Schema

def latest : Nat := 2

def tableNames : List String :=
  ["identities", "iterations", "store_meta", "work_item_types", "work_items"]

def indexNames : List String :=
  ["idx_iterations_one_started", "idx_iterations_space_state", "idx_work_items_iteration",
    "idx_work_items_live", "idx_work_items_type"]

inductive Fault
  | negativeVersion
  | noTable
deriving DecidableEq

def Fault.message : Fault → String
  | negativeVersion =>
    "Conversion error from type Integer at index: 0, number too small to fit in target type"
  | noTable => "no such table: main.work_items"

/-- A store that nothing has been done to, but for the tables perhaps. -/
def fresh (tables : Bool) (version : Int) : Schema :=
  ⟨tables, false, if tables then some 0 else none, version⟩

def currentVersion (s : Schema) : Except Fault Nat :=
  if s.version < 0 then .error .negativeVersion else .ok s.version.toNat

/-- Makes the tables where they are missing. -/
def addTables (s : Schema) : Schema :=
  { s with hasTables := true, version := 1, recorded := some 1 }

/-- Makes the indexes, for which the tables have to be there. -/
def addIndexes (s : Schema) : Except Fault Schema :=
  if s.hasTables then .ok { s with hasIndexes := true, version := 2, recorded := some 2 }
  else .error .noTable

/-- Runs the migrations that are still to come. A migration that fails leaves what was there
before it. -/
def migrate (s : Schema) : Except Fault Nat × Schema :=
  match s.currentVersion with
  | .error e => (.error e, s)
  | .ok current =>
    let s := if current < 1 then s.addTables else s
    if current < 2 then
      match s.addIndexes with
      | .error e => (.error e, s)
      | .ok s => (.ok 2, s)
    else (.ok current, s)

end Schema

end Backlog
