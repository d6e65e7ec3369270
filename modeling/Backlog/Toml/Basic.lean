/-!
# Configuration documents

The values of a configuration document. Of numbers only integers are kept as such; truth values
and other numbers are told apart from them and from texts only, and of dates and times only that
they are such.
-/

namespace Backlog

/-- A table remembers how it came to be: `implicit` tables stand above one that a header named,
`dotted` tables above one that a key with dots named. A table written as a value, `inline`, is
whole at its closing brace. -/
inductive Toml
  | str (s : String)
  | int (n : Int)
  | date
  | other
  | arr (items : List Toml)
  | inline (entries : List (String × Toml))
  | table (implicit dotted : Bool) (entries : List (String × Toml))
  | tables (rows : List Toml)

namespace Toml

instance : Inhabited Toml := ⟨other⟩

def lookup (key : String) (entries : List (String × Toml)) : Option Toml :=
  (entries.find? (·.1 = key)).map (·.2)

def replace (key : String) (value : Toml) (entries : List (String × Toml)) : List (String × Toml) :=
  entries.map fun e => if e.1 = key then (key, value) else e

/-- Changes the table at a path, with the tables on the way made where they are missing. Nothing is
added to a table that was written as a value, and keys with dots do not enter tables that a header
named. -/
def edit (dotted : Bool) (change : Toml → Option Toml) : List String → Toml → Option Toml
  | [], t => change t
  | k :: ks, .table i d es =>
    match lookup k es with
    | none => do
      let t ← edit dotted change ks (.table true dotted [])
      return .table i d (es ++ [(k, t)])
    | some (.table i' d' es') =>
      if dotted && !i' then none
      else do
        let t ← edit dotted change ks (.table i' d' es')
        return .table i d (replace k t es)
    | some (.tables rows) =>
      match rows.getLast? with
      | none => none
      | some row => do
        let t ← edit dotted change ks row
        return .table i d (replace k (.tables (rows.dropLast ++ [t])) es)
    | some _ => none
  | _ :: _, _ => none

/-- Puts a value under a key that a table does not have yet. -/
def put (viaDots : Bool) (key : String) (value : Toml) : Toml → Option Toml
  | .table i d es =>
    if d ≠ viaDots ∨ (lookup key es).isSome then none else some (.table i d (es ++ [(key, value)]))
  | _ => none

/-- Puts a value at a path of keys below a table. -/
def putAt (path : List String) (value : Toml) (t : Toml) : Option Toml :=
  match path.getLast? with
  | none => none
  | some key =>
    let above := path.dropLast
    edit true (put (!above.isEmpty) key value) above t

/-- Opens the table that a header names. -/
def openTable (path : List String) (t : Toml) : Option Toml :=
  match path.getLast? with
  | none => none
  | some key =>
    edit false (fun
      | .table i d es =>
        match lookup key es with
        | none => some (.table i d (es ++ [(key, .table false false [])]))
        | some (.table true false es') =>
          some (.table i d (es.filter (·.1 ≠ key) ++ [(key, .table false false es')]))
        | some _ => none
      | _ => none) path.dropLast t

/-- Opens one more table of the list of tables that a header names. -/
def openRow (path : List String) (t : Toml) : Option Toml :=
  match path.getLast? with
  | none => none
  | some key =>
    edit false (fun
      | .table i d es =>
        match lookup key es with
        | none => some (.table i d (es ++ [(key, .tables [.table false false []])]))
        | some (.tables rows) =>
          some (.table i d (replace key (.tables (rows ++ [.table false false []])) es))
        | some _ => none
      | _ => none) path.dropLast t

/-- Changes the table that the last header opened. -/
def editOpened (path : List String) (change : Toml → Option Toml) (t : Toml) : Option Toml :=
  edit false change path t

def empty : Toml := .table false false []

/-- The value that a table written between braces has. -/
def close : Toml → Toml
  | .table _ _ es => .inline es
  | t => t

end Toml

end Backlog
