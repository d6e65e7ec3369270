import Backlog.Filter.Basic
import Backlog.Filter.Datum

/-!
# Predicates

A filter compiles to a predicate over one column, whose text has numbered places, and to the list
of values bound to the places.

**Decision.** A predicate is decided over a row from left to right and no further than needed. Some
constant terms are seen before that: a conjunction with the constant false is read as false, and the
conjuncts of the whole that look at no field come first.

**Places.** Every field takes a place for its path and every literal one for its value, in the
order of the text. What a field is called and what it is compared with is only in the list.

**Refusal.** A filter is refused for a field name that is empty or holds a quote, for a literal
that is a list or an object, and for an order relation with `null`.
-/

namespace Backlog

/-- A predicate that names its places by number, from one on. -/
inductive Predicate
  | constant (b : Bool)
  | isNull (path : Nat)
  | isNotNull (path : Nat)
  | compare (path : Nat) (op : CompareOp) (literal : Nat)
  | and (terms : List Predicate)
  | or (terms : List Predicate)
  | not (inner : Predicate)

namespace Predicate

/-! ## Text -/

/-- The value of the field at a path, over a column. -/
def extractText (column : String) (path : Nat) : String :=
  "json_extract(" ++ column ++ ", ?" ++ toString path ++ ")"

mutual

def sql (column : String) : Predicate → String
  | constant b => if b then "1" else "0"
  | isNull path => extractText column path ++ " IS NULL"
  | isNotNull path => extractText column path ++ " IS NOT NULL"
  | compare path op literal =>
    extractText column path ++ " " ++ op.sql ++ " ?" ++ toString literal
  | and terms => "(" ++ " AND ".intercalate (sqlTerms column terms) ++ ")"
  | or terms => "(" ++ " OR ".intercalate (sqlTerms column terms) ++ ")"
  | not inner => "NOT (" ++ sql column inner ++ ")"

def sqlTerms (column : String) : List Predicate → List String
  | [] => []
  | p :: ps => sql column p :: sqlTerms column ps

end

/-! ## Meaning -/

/-- The value bound to a place. -/
def bound (params : List Datum) (place : Nat) : Datum :=
  if place = 0 then .null else (params[place - 1]?).getD .null

mutual

/-- The truth of a predicate over a row, given what the row has at a path. -/
def truth (params : List Datum) (extract : Datum → Datum) : Predicate → Truth
  | constant b => .ofBool b
  | isNull path => .ofBool (extract (bound params path) = .null)
  | isNotNull path => .ofBool (extract (bound params path) ≠ .null)
  | compare path op literal =>
    match (extract (bound params path)).compare (bound params literal) with
    | none => .unknown
    | some o => .ofBool (op.holds o)
  | and terms => .all (truths params extract terms)
  | or terms => .any (truths params extract terms)
  | not inner => (truth params extract inner).not

def truths (params : List Datum) (extract : Datum → Datum) : List Predicate → List Truth
  | [] => []
  | p :: ps => truth params extract p :: truths params extract ps

end

/-! ## Constant terms -/

mutual

/-- The places that hold paths. -/
def paths : Predicate → List Nat
  | constant _ => []
  | isNull path | isNotNull path | compare path _ _ => [path]
  | and terms | or terms => pathsOf terms
  | not inner => paths inner

def pathsOf : List Predicate → List Nat
  | [] => []
  | p :: ps => paths p ++ pathsOf ps

end

def isFalse : Predicate → Bool
  | constant b => !b
  | _ => false

/-- A conjunction, which a constant among its terms can make false, and which is not there for a
single term. -/
def conjunction (ps : List Predicate) : Predicate :=
  if ps.any isFalse then constant false
  else match ps with
    | [p] => p
    | ps => and ps

def disjunction : List Predicate → Predicate
  | [p] => p
  | ps => or ps

mutual

/-- What is kept of a predicate when its text is read. -/
def folded : Predicate → Predicate
  | and terms => conjunction (foldedTerms terms)
  | or terms => disjunction (foldedTerms terms)
  | not inner => not (folded inner)
  | p => p

def foldedTerms : List Predicate → List Predicate
  | [] => []
  | p :: ps => folded p :: foldedTerms ps

end

/-- What is known of terms of which a `decisive` one settles all. -/
def joined (decisive : Bool) (known : List (Option Bool)) : Option Bool :=
  if known.contains (some decisive) then some decisive
  else if known.all (· == some !decisive) then some !decisive
  else none

mutual

/-- The value of a predicate as far as its connectives give it away. A negation is not looked
into. -/
def known? : Predicate → Option Bool
  | constant b => some b
  | and terms => joined false (knownTerms terms)
  | or terms => joined true (knownTerms terms)
  | _ => none

def knownTerms : List Predicate → List (Option Bool)
  | [] => []
  | p :: ps => known? p :: knownTerms ps

end

mutual

/-- The terms of a conjunction, through all conjunctions among them. -/
def conjuncts : Predicate → List Predicate
  | and terms => conjunctsOf terms
  | p => [p]

def conjunctsOf : List Predicate → List Predicate
  | [] => []
  | p :: ps => conjuncts p ++ conjunctsOf ps

end

/-! ## Decision -/

/-- A test of one field, given how a path is looked at. -/
def decidesAt {ε : Type} (params : List Datum) (look : Datum → Except ε Datum) (wanted : Bool)
    (test : Predicate) (path : Nat) : Except ε Bool :=
  (look (bound params path)).map fun d => truth params (fun _ => d) test = .ofBool wanted

mutual

/-- Whether a predicate is true, or whether it is false where that is wanted. Where its connectives
do not give it away, terms are looked at in their order, as far as the answer needs them, and a look
at a path can fail. -/
def decides {ε : Type} (params : List Datum) (look : Datum → Except ε Datum) (wanted : Bool) :
    Predicate → Except ε Bool
  | constant b => .ok (b = wanted)
  | isNull path => decidesAt params look wanted (.isNull path) path
  | isNotNull path => decidesAt params look wanted (.isNotNull path) path
  | compare path op literal => decidesAt params look wanted (.compare path op literal) path
  | and terms =>
    match known? (and terms) with
    | some b => .ok (b = wanted)
    | none => decidesTerms params look wanted wanted terms
  | or terms =>
    match known? (or terms) with
    | some b => .ok (b = wanted)
    | none => decidesTerms params look wanted (!wanted) terms
  | not inner => decides params look (!wanted) inner

/-- The answer of each term up to the first that is not the expected one, else that. -/
def decidesTerms {ε : Type} (params : List Datum) (look : Datum → Except ε Datum)
    (wanted expected : Bool) : List Predicate → Except ε Bool
  | [] => .ok expected
  | p :: ps => do
    if (← decides params look wanted p) = expected then
      decidesTerms params look wanted expected ps
    else return !expected

end

/-- The conjuncts of a predicate as they are looked at for a row: first those that look at no
field. -/
def stages (p : Predicate) : List Predicate :=
  let terms := p.folded.conjuncts
  (terms.filter fun q => q.paths.isEmpty) ++ terms.filter fun q => !q.paths.isEmpty

/-- Whether a predicate selects a row. -/
def settles {ε : Type} (params : List Datum) (look : Datum → Except ε Datum) (p : Predicate) :
    Except ε Bool :=
  decidesTerms params look true true p.stages

end Predicate

namespace Filter

/-! ## Compilation -/

/-- Compiling binds values in order, also up to a refusal. -/
abbrev Binder := ExceptT Error (StateM (List Datum))

/-- Binds a value and returns its place. -/
def bind (d : Datum) : Binder Nat := do
  modify (· ++ [d])
  return (← get).length

/-- The path of a field, which is a single key between quotes. -/
def pathText (field : String) : String := "$.\"" ++ field ++ "\""

def bindField (field : String) : Binder Nat := do
  if field.isEmpty || field.toList.contains '"' then
    throw (.badParameter "filter" ("invalid field name '" ++ field ++ "'"))
  bind (.text (pathText field))

/-- The value that a literal is bound to. -/
def literal (field : String) : Json → Except Error Datum
  | .str s => .ok (.text s)
  | .bool b => .ok (.int (if b then 1 else 0))
  | .int n =>
    if Decimal.IsInt64 n then .ok (.int n)
    else match Binary64.ofInt? n with
      | some x => .ok (.real x)
      | none => .error (.badParameter "filter"
          ("number " ++ (Json.int n).text ++ " for '" ++ field ++ "' is out of range"))
  | .float x => .ok (.real x)
  | .null => .error (.badParameter "filter"
      ("'" ++ field ++ "' can only be compared to null with = or !="))
  | .arr _ | .obj _ => .error (.badParameter "filter"
      ("'" ++ field ++ "' must be compared to a scalar"))

mutual

def compile : Filter → Binder Predicate
  | all => return .constant true
  | isNull field => return .isNull (← bindField field)
  | compare field op value => do
    let path ← bindField field
    match value, op with
    | .null, .eq => return .isNull path
    | .null, .ne => return .isNotNull path
    | value, op => return .compare path op (← bind (← literal field value))
  | and [] => return .constant true
  | and (f :: fs) => return .and (← compileTerms (f :: fs))
  | or [] => return .constant false
  | or (f :: fs) => return .or (← compileTerms (f :: fs))
  | not inner => return .not (← compile inner)

def compileTerms : List Filter → Binder (List Predicate)
  | [] => return []
  | f :: fs => do
    let p ← compile f
    return p :: (← compileTerms fs)

end

/-- The predicate of a filter and all bound values, given those that are bound already. -/
def toPredicate (f : Filter) (bound : List Datum) : Except Error Predicate × List Datum :=
  (compile f).run bound

/-! ## Meaning -/

mutual

/-- The truth of a filter, given the stored value of each field. -/
def truth (stored : String → Datum) : Filter → Truth
  | all => .yes
  | isNull field => .ofBool (stored field = .null)
  | compare field op value =>
    match value, op with
    | .null, .eq => .ofBool (stored field = .null)
    | .null, .ne => .ofBool (stored field ≠ .null)
    | value, op =>
      match literal field value with
      | .error _ => .unknown
      | .ok d =>
        match (stored field).compare d with
        | none => .unknown
        | some o => .ofBool (op.holds o)
  | and terms => .all (truths stored terms)
  | or terms => .any (truths stored terms)
  | not inner => (truth stored inner).not

def truths (stored : String → Datum) : List Filter → List Truth
  | [] => []
  | f :: fs => truth stored f :: truths stored fs

end

end Filter

end Backlog
