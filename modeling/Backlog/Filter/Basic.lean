import Backlog.Error

/-!
# Filters

A filter selects work items by their stored field values: comparisons with a literal and tests for
`null`, joined by *and*, *or* and *not*.
-/

namespace Backlog

inductive CompareOp
  | eq | ne | lt | le | gt | ge
deriving DecidableEq, Inhabited

namespace CompareOp

def all : List CompareOp := [eq, ne, lt, le, gt, ge]

def name : CompareOp → String
  | eq => "eq"
  | ne => "ne"
  | lt => "lt"
  | le => "le"
  | gt => "gt"
  | ge => "ge"

def sql : CompareOp → String
  | eq => "="
  | ne => "<>"
  | lt => "<"
  | le => "<="
  | gt => ">"
  | ge => ">="

/-- What an operator says of an order. -/
def holds : CompareOp → Ordering → Bool
  | eq, o => o == .eq
  | ne, o => o != .eq
  | lt, o => o == .lt
  | le, o => o != .gt
  | gt, o => o == .gt
  | ge, o => o != .lt

/-- Reads an operator by sign or by name. -/
def read (s : String) : Except Error CompareOp :=
  let name := Text.lower (Text.trim s)
  if name = "=" ∨ name = "==" ∨ name = "eq" then .ok eq
  else if name = "!=" ∨ name = "<>" ∨ name = "ne" then .ok ne
  else if name = "<" ∨ name = "lt" then .ok lt
  else if name = "<=" ∨ name = "le" then .ok le
  else if name = ">" ∨ name = "gt" then .ok gt
  else if name = ">=" ∨ name = "ge" then .ok ge
  else .error (.badParameter "op" ("unknown comparison '" ++ name ++ "'"))

end CompareOp

inductive Filter
  | all
  | compare (field : String) (op : CompareOp) (value : Json)
  | isNull (field : String)
  | and (terms : List Filter)
  | or (terms : List Filter)
  | not (inner : Filter)

namespace Filter

instance : Inhabited Filter := ⟨all⟩

def equals (field : String) (value : Json) : Filter := compare field .eq value

/-- The conjunction of terms; none and one need no connective. -/
def conjunction : List Filter → Filter
  | [] => all
  | [f] => f
  | fs => and fs

/-- A filter in its simple form: an object of fields and the values that they equal. -/
def ofText (s : String) : Except Error Filter :=
  match Json.parse s with
  | .error f => .error (.badParameter "filter" f.message)
  | .ok v =>
    match v.record? with
    | none => .error (.badParameter "filter" "simple query must be a JSON object")
    | some r => .ok (conjunction (r.entries.map fun e => equals e.1 e.2))

end Filter

end Backlog
