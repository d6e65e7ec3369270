import Backlog.Store.Items

/-!
# Statements of lists

A list asks for its rows with two statements over one condition: the first counts the rows, the
second gives those of the window.

**Limits.** The store refuses a statement or a value that is too long, a place beyond the last one,
and an expression that nests too deep. How deep it nests counts twice: in the symbols that stand
open while the text is read, and in the height of what has been read. A conjunction with the
constant false is read as false, and so has no height.
-/

namespace Backlog

namespace Predicate

/-! ## Text -/

/-- The condition on the rows of a list. -/
def condition (p : Predicate) : String :=
  "w.deleted_at_us IS NULL AND (" ++ p.sql "w.fields_json" ++ ")"

/-- The window of a list. Without a limit, an offset needs one that is none. -/
def limitClause : Option Nat → Option Nat → String
  | some offset, some limit => " LIMIT " ++ toString limit ++ " OFFSET " ++ toString offset
  | none, some limit => " LIMIT " ++ toString limit
  | some offset, none => " LIMIT -1 OFFSET " ++ toString offset
  | none, none => ""

/-- The statement that gives the rows, which is the longer one of the two. -/
def listStatement (p : Predicate) (offset limit : Option Nat) : String :=
  "SELECT w.item_id, w.type_name, w.version, w.fields_json, w.created_at_us, w.updated_at_us " ++
    "FROM work_items w WHERE " ++ p.condition ++ " ORDER BY w.item_id ASC" ++
    limitClause offset limit

/-! ## Limits -/

/-- How many bytes a statement or a text may have. -/
def byteLimit : Nat := 1000000000

/-- How many symbols may stand open while a statement is read. -/
def symbolLimit : Nat := 99

def placeLimit : Nat := 32766

def heightLimit : Nat := 1000

def within (limit : Nat) (reason : String) (n : Nat) : Except String Unit :=
  if n ≤ limit then .ok () else .error reason

def checkSymbols (n : Nat) : Except String Unit := within symbolLimit "parser stack overflow" n

def checkPlace (n : Nat) : Except String Unit :=
  within placeLimit "variable number must be between ?1 and ?32766" n

def checkHeight (n : Nat) : Except String Unit :=
  within heightLimit "Expression tree is too large (maximum depth 1000)" n

/-- What an expression has been read as: how high it is, and whether it is the constant false. -/
structure Outline where
  height : Nat
  isFalse : Bool

/-- The test of a field calls a function and looks up its path and a literal, if it has one. Where
the column is named in the call, six symbols stand open. -/
def outlineTest (below : Nat) (places : List Nat) : Except String Outline := do
  checkSymbols (below + 6)
  places.forM checkPlace
  return ⟨4, false⟩

/-- A connective of two operands. -/
def connected (conjunction : Bool) (a b : Outline) : Except String Outline := do
  if conjunction && (a.isFalse || b.isFalse) then return ⟨1, true⟩
  checkHeight (max a.height b.height + 1)
  return ⟨max a.height b.height + 1, false⟩

/-- An expression in parentheses, given how it is read inside. -/
def parenthesized (below : Nat) (inner : Nat → Except String Outline) : Except String Outline := do
  let o ← inner (below + 1)
  checkSymbols (below + 3)
  return o

mutual

/-- Reads a predicate from its text, given how many symbols stand open before it. -/
def outline (below : Nat) : Predicate → Except String Outline
  | constant b => do
    checkSymbols (below + 1)
    return ⟨1, !b⟩
  | isNull path | isNotNull path => outlineTest below [path]
  | compare path _ literal => outlineTest below [path, literal]
  | and terms => parenthesized below fun below => outlineTerms below true none terms
  | or terms => parenthesized below fun below => outlineTerms below false none terms
  | not inner => do
    let o ← parenthesized (below + 1) fun below => outline below inner
    checkHeight (o.height + 1)
    return ⟨o.height + 1, false⟩

/-- Reads terms behind those that have been read. -/
def outlineTerms (below : Nat) (conjunction : Bool) :
    Option Outline → List Predicate → Except String Outline
  | read, [] => .ok (read.getD ⟨0, false⟩)
  | none, p :: ps => do
    let o ← outline below p
    outlineTerms below conjunction (some o) ps
  | some first, p :: ps => do
    let o ← outline (below + 2) p
    let both ← connected conjunction first o
    outlineTerms below conjunction (some both) ps

end

def checkValue : Datum → Except String Unit
  | .text s => within byteLimit "string or blob too big" s.utf8ByteSize
  | _ => .ok ()

/-- Whether the store takes the statements of a list, or why not. Seven symbols stand open where the
predicate begins with its parenthesis, the test of deletion among them. -/
def checkStatement (p : Predicate) (offset limit : Option Nat) : Except String Unit := do
  within byteLimit "statement too long" (p.listStatement offset limit).utf8ByteSize
  let o ← parenthesized 7 fun below => outline below p
  let _ ← connected true ⟨3, false⟩ o

/-- Whether the store takes the statements of a list and the values in them. -/
def checkList (p : Predicate) (params : List Datum) (offset limit : Option Nat) :
    Except String Unit := do
  p.checkStatement offset limit
  params.forM checkValue

end Predicate

namespace Store

/-- A list as callers ask for it: its statements have to be such that the store takes them. -/
def listWithin (filter : Filter) (offset limit : Option Nat) : Action (List WorkItem × Nat) := do
  match filter.toPredicate [] with
  | (.error e, _) => throw e
  | (.ok p, params) =>
    ofResult ((p.checkList params offset limit).mapError .internal)
    listItems filter offset limit

end Store

end Backlog
