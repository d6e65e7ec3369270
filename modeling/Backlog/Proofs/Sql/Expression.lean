import Backlog.Filter.Datum
import Backlog.Proofs.Sql.Token

/-!
# Expressions of SQL

**Binding.** From the loosest to the tightest: `OR`, then `AND`, then `NOT`, then equality and `IS`,
then the order relations. Operators that bind alike are joined from the left.

**Reading** goes token by token over a stack of what has been begun (`Frame`). An operator first
joins what stands before it and binds at least as tightly (`reduce`), a closing parenthesis, a comma
and the end of the text join all that was begun since the parenthesis opened.

**Values** are those of a row. Truth has three values and is kept as one, zero or nothing.
-/

namespace Backlog

/-- A truth value as a value. -/
def Truth.datum : Truth → Datum
  | no => .int 0
  | unknown => .null
  | yes => .int 1

namespace Truth

theorem and_assoc (a b c : Truth) : (a.and b).and c = a.and (b.and c) := by
  cases a <;> cases b <;> cases c <;> rfl

theorem and_yes (a : Truth) : a.and yes = a := by
  cases a <;> rfl

theorem or_assoc (a b c : Truth) : (a.or b).or c = a.or (b.or c) := by
  cases a <;> cases b <;> cases c <;> rfl

theorem or_no (a : Truth) : a.or no = a := by
  cases a <;> rfl

end Truth

namespace Sql

/-! ## Syntax -/

inductive Binary
  | or
  | and
  | is
  | isNot
  | compare (op : CompareOp)
deriving DecidableEq

inductive Expr
  | number (n : Nat)
  | null
  | place (n : Nat)
  | column (parts : List String)
  /-- The value in a document at a path. -/
  | extract (document path : Expr)
  | not (a : Expr)
  | binary (op : Binary) (a b : Expr)
deriving DecidableEq

/-- How tightly an operator binds. -/
def Binary.level : Binary → Nat
  | or => 1
  | and => 2
  | is | isNot | compare .eq | compare .ne => 4
  | compare _ => 5

def notLevel : Nat := 3

/-! ## Reading -/

/-- What has been begun and waits for an operand to end. -/
inductive Frame
  | paren
  /-- The first argument of `json_extract`. -/
  | document
  /-- The second one. -/
  | path (document : Expr)
  | not
  | left (op : Binary) (a : Expr)

/-- What stands right before the next token. -/
inductive Focus
  /-- An operand has to follow. -/
  | wanted
  /-- A name has to follow the dot behind these. -/
  | dotted (parts : List String)
  | named (parts : List String)
  | done (e : Expr)

def Focus.expr? : Focus → Option Expr
  | wanted | dotted _ => none
  | named parts => some (.column parts)
  | done e => some e

structure Reading where
  stack : List Frame
  focus : Focus

/-- Joins an operand with what stands before it, as far as that binds at least so tightly. -/
def reduce (level : Nat) : List Frame → Expr → List Frame × Expr
  | .not :: stack, e =>
    if level ≤ notLevel then reduce level stack (.not e) else (.not :: stack, e)
  | .left op a :: stack, e =>
    if level ≤ op.level then reduce level stack (.binary op a e) else (.left op a :: stack, e)
  | stack, e => (stack, e)

namespace Reading

/-- An operand that is read by itself. -/
def operand (e : Expr) (r : Reading) : Option Reading :=
  match r.focus with
  | .wanted => some { r with focus := .done e }
  | _ => none

def name (s : String) (r : Reading) : Option Reading :=
  match r.focus with
  | .wanted => some { r with focus := .named [s] }
  | .dotted parts => some { r with focus := .named (parts ++ [s]) }
  | _ => none

def dot (r : Reading) : Option Reading :=
  match r.focus with
  | .named parts => some { r with focus := .dotted parts }
  | _ => none

def opening (r : Reading) : Option Reading :=
  match r.focus with
  | .wanted => some ⟨.paren :: r.stack, .wanted⟩
  | .named ["json_extract"] => some ⟨.document :: r.stack, .wanted⟩
  | _ => none

/-- Everything since the last parenthesis, and what was begun before it. -/
def joined? (r : Reading) : Option (List Frame × Expr) := r.focus.expr?.map (reduce 0 r.stack)

def comma (r : Reading) : Option Reading :=
  match r.joined? with
  | some (.document :: stack, e) => some ⟨.path e :: stack, .wanted⟩
  | _ => none

def closing (r : Reading) : Option Reading :=
  match r.joined? with
  | some (.paren :: stack, e) => some ⟨stack, .done e⟩
  | some (.path document :: stack, e) => some ⟨stack, .done (.extract document e)⟩
  | _ => none

/-- `NOT` right behind `IS` belongs to it. -/
def not (r : Reading) : Option Reading :=
  match r.focus, r.stack with
  | .wanted, .left .is a :: stack => some ⟨.left .isNot a :: stack, .wanted⟩
  | .wanted, stack => some ⟨.not :: stack, .wanted⟩
  | _, _ => none

def binary (op : Binary) (r : Reading) : Option Reading :=
  r.focus.expr?.map fun e =>
    let (stack, a) := reduce op.level r.stack e
    ⟨.left op a :: stack, .wanted⟩

def step (r : Reading) : Token → Option Reading
  | .number n => r.operand (.number n)
  | .place n => r.operand (.place n)
  | .null => r.operand .null
  | .name s => r.name s
  | .dot => r.dot
  | .opening => r.opening
  | .comma => r.comma
  | .closing => r.closing
  | .not => r.not
  | .or => r.binary .or
  | .and => r.binary .and
  | .is => r.binary .is
  | .compare op => r.binary (.compare op)

end Reading

def parse (ts : List Token) : Option Expr :=
  match (ts.foldlM Reading.step ⟨[], .wanted⟩).bind Reading.joined? with
  | some ([], e) => some e
  | _ => none

/-- The expression that a text writes. -/
def read (s : String) : Option Expr := (tokens? s).bind parse

example : read "?1 OR ?2 AND NOT ?3 = ?4 < ?5" = some
    (.binary .or (.place 1) (.binary .and (.place 2) (.not (.binary (.compare .eq) (.place 3)
      (.binary (.compare .lt) (.place 4) (.place 5)))))) := by decide

/-! ## Values -/

/-- What an expression is read against. -/
structure Row where
  /-- The value bound to a place. -/
  place : Nat → Datum
  column : List String → Datum
  /-- The value in a document at a path. -/
  extract : Datum → Datum → Datum
  /-- Whether a text stands for a number other than zero. -/
  holds : String → Bool

namespace Row

def truth (row : Row) : Datum → Truth
  | .null => .unknown
  | .int n => .ofBool (n ≠ 0)
  | .real x => .ofBool (!x.isZero)
  | .text s => .ofBool (row.holds s)

theorem truth_datum (row : Row) (t : Truth) : row.truth t.datum = t := by
  cases t <;> rfl

end Row

/-- Nothing is the same as nothing, and other values are if they compare so. -/
def same (a b : Datum) : Bool :=
  match a, b with
  | .null, .null => true
  | a, b => a.compare b = some .eq

theorem same_null (d : Datum) : same d .null = decide (d = .null) := by
  cases d <;> simp [same, Datum.compare]

def compareTruth (op : CompareOp) (a b : Datum) : Truth :=
  match a.compare b with
  | none => .unknown
  | some o => .ofBool (op.holds o)

def Binary.truth (row : Row) (a b : Datum) : Binary → Truth
  | or => (row.truth a).or (row.truth b)
  | and => (row.truth a).and (row.truth b)
  | is => .ofBool (same a b)
  | isNot => .ofBool (!same a b)
  | compare op => compareTruth op a b

def Expr.value (row : Row) : Expr → Datum
  | number n => .ofJson (.int n)
  | null => .null
  | place n => row.place n
  | column parts => row.column parts
  | extract document path => row.extract (document.value row) (path.value row)
  | not a => (row.truth (a.value row)).not.datum
  | binary op a b => (op.truth row (a.value row) (b.value row)).datum

end Sql

end Backlog
