import Backlog.Store.Items
import Backlog.Store.Iterations

/-!
# Columns written from outside

Other programs can write to the columns of a store. Only the unique columns, and the index that
reads the fields of live items, still hold what is written; whether it makes sense shows when the
row is read.
-/

namespace Backlog.Store

/-! ## Numbers in texts -/

/-- What a column of integers makes of a text. -/
inductive NumberColumn
  | int (n : Int)
  | real
  | text
deriving DecidableEq

namespace NumberColumn

def isSpace (c : Char) : Bool := c = ' ' || (9 ≤ c.toNat && c.toNat ≤ 13)

def strip (cs : List Char) : List Char :=
  ((cs.dropWhile isSpace).reverse.dropWhile isSpace).reverse

/-- An exponent with its letter, or nothing. -/
def exponent? : List Char → Option Int
  | [] => some 0
  | c :: cs => if c = 'e' ∨ c = 'E' then Decimal.readInt? cs else none

/-- The digits of a number, how many of them stand behind the point, and its exponent. -/
def parts? (cs : List Char) : Option (List Char × Nat × Int) :=
  let whole := cs.takeWhile Char.isDigit
  let rest := cs.dropWhile Char.isDigit
  let (behind, rest) := match rest with
    | '.' :: rest => (rest.takeWhile Char.isDigit, rest.dropWhile Char.isDigit)
    | rest => ([], rest)
  if (whole ++ behind).isEmpty then none
  else (exponent? rest).map fun e => (whole ++ behind, behind.length, e)

/-- A number by digits and a power of ten, if it is an integer of 64 bits. -/
def ofScaled (negative : Bool) (n : Nat) (scale : Int) : NumberColumn :=
  if n = 0 then .int 0
  else if 20 ≤ scale then .real
  else
    let divisor := Nat.pow 10 (min (-scale).toNat (n.log2 + 1))
    let whole : Int := ↑(n * Nat.pow 10 scale.toNat / divisor)
    let value := if negative then -whole else whole
    if n % divisor = 0 ∧ Decimal.IsInt64 value then .int value else .real

def ofText (s : String) : NumberColumn :=
  let (negative, cs) := match strip s.toList with
    | '-' :: cs => (true, cs)
    | '+' :: cs => (false, cs)
    | cs => (false, cs)
  match parts? cs with
  | none => .text
  | some (digits, behind, e) => ofScaled negative (Decimal.ofDigits digits) (e - behind)

/-- Why a column that should hold an integer cannot be read. -/
def fault? (index : Nat) (column : String) : NumberColumn → Option String
  | int _ => none
  | real => some (wrongType "Real")
  | text => some (wrongType "Text")
where
  wrongType (found : String) : String :=
    "Invalid column type " ++ found ++ " at index: " ++ idText index ++ ", name: " ++ column

end NumberColumn

/-! ## Overwriting -/

inductive Column
  | itemFields
  | itemVersion
  | typeFields
  | iterationId
  | iterationSpace
  | iterationState
  | iterationStart
  | identityId
deriving DecidableEq

/-- Why a text cannot be written to a column. -/
inductive OverwriteFault
  | unreadableFields
  | notUnique (column : String)
deriving DecidableEq

def OverwriteFault.message : OverwriteFault → String
  | unreadableFields => "malformed JSON"
  | notUnique column => "UNIQUE constraint failed: " ++ column

/-- Applies a change to the rows that a key names, and counts them. -/
def change {α : Type} (named : α → Bool) (f : α → α) (rows : List α) : List α × Nat :=
  (rows.map fun r => if named r then f r else r, rows.countP named)

def isItem (key : String) (r : ItemRow) : Bool :=
  Decimal.readInt64? (Text.trim key) = some (r.id : Int)

def overwriteItem (key : String) (f : ItemRow → ItemRow) (s : Store) : Nat × Store :=
  let (rows, n) := change (isItem key) f s.items
  (n, { s with items := rows })

def overwriteIteration (key : String) (f : IterationRow → IterationRow) (s : Store) :
    Nat × Store :=
  let (rows, n) := change (fun r => r.id = key) f s.iterations
  (n, { s with iterations := rows })

/-- Another row than the named one is started in the space. -/
def startedElsewhere (key space : String) (s : Store) : Bool :=
  s.iterations.any fun r => r.id ≠ key ∧ r.space = space ∧ r.state = IterationState.start.name

/-- A change of the named row would start a second iteration of a space. -/
def clashes (key : String) (f : IterationRow → IterationRow) (s : Store) : Bool :=
  s.iterations.any fun r =>
    r.id = key ∧ (f r).state = IterationState.start.name ∧ startedElsewhere key (f r).space s

def overwriteStarted (key : String) (f : IterationRow → IterationRow) (s : Store) :
    Except OverwriteFault (Nat × Store) :=
  if clashes key f s then .error (.notUnique "iterations.space_id")
  else .ok (overwriteIteration key f s)

/-- Writes a text to a column of the row that a key names; the number of rows changed and the
store after it. -/
def overwrite (column : Column) (key value : String) (s : Store) :
    Except OverwriteFault (Nat × Store) :=
  match column with
  | .itemFields =>
    if (s.items.any fun r => isItem key r && !r.deleted) && !Stored.isReadable value then
      .error .unreadableFields
    else .ok (overwriteItem key (fun r => { r with fieldsText := value }) s)
  | .itemVersion =>
    let n := NumberColumn.ofText value
    .ok (overwriteItem key (fun r =>
      { r with version := match n with | .int v => v | _ => r.version
               unreadable := n.fault? 2 "version" }) s)
  | .typeFields =>
    let (rows, n) := change (fun r : TypeRow => r.name = key)
      (fun r => { r with fieldsText := value }) s.types
    .ok (n, { s with types := rows })
  | .iterationId =>
    if value ≠ key ∧ s.iterations.any (·.id = key) ∧ s.iterations.any (·.id = value) then
      .error (.notUnique "iterations.iteration_id")
    else .ok (overwriteIteration key (fun r => { r with id := value }) s)
  | .iterationSpace => overwriteStarted key (fun r => { r with space := value }) s
  | .iterationState => overwriteStarted key (fun r => { r with state := value }) s
  | .iterationStart =>
    let n := NumberColumn.ofText value
    .ok (overwriteIteration key (fun r =>
      { r with start := match n with | .int v => some v | _ => r.start
               unreadable := n.fault? 5 "start_at_us" }) s)
  | .identityId =>
    if value ≠ key ∧ s.identities.any (·.id = key) ∧ s.identities.any (·.id = value) then
      .error (.notUnique "identities.identity_id")
    else
      let (rows, n) := change (fun r : IdentityRow => r.id = key)
        (fun r => { r with id := value }) s.identities
      .ok (n, { s with identities := rows })

/-- Takes a type out of the registry; the number of rows taken and the store after it. -/
def dropType (name : String) (s : Store) : Nat × Store :=
  (s.types.countP (·.name = name), { s with types := s.types.filter (·.name ≠ name) })

end Backlog.Store
