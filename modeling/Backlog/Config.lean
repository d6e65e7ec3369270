import Backlog.Page
import Backlog.Path
import Backlog.Toml.Reader

/-!
# Configuration

A project says where its store lies and how long its pages are. A user says how output looks.
Every setting has a value of its own where a document is silent, and settings that are not known
are passed over.
-/

namespace Backlog

structure StoreConfig where
  path : String := ".witrack/witrack.sqlite3"
  busyTimeoutMillis : Nat := 5000
deriving DecidableEq, Inhabited

structure ProjectConfig where
  store : StoreConfig := {}
  paging : PagingConfig := {}
deriving DecidableEq, Inhabited

structure UserConfig where
  output : Option String := none
deriving DecidableEq, Inhabited

namespace Toml

/-! ## Settings -/

/-- A setting of a section: named in a table, or at its place in a list. A date stands for a
section that has no setting. -/
def setting? (name : String) (index : Nat) : Toml → Option (Option Toml)
  | .date => some none
  | .inline es | .table _ _ es => some (lookup name es)
  | .arr xs => some xs[index]?
  | .tables rows => some rows[index]?
  | _ => none

/-- The value of a setting, or what holds without it; `none` where the value is of a wrong type. -/
def orElse {α : Type} (t : Option Toml) (standard : α) (read : Toml → Option α) : Option α :=
  match t with
  | none => some standard
  | some t => read t

def string? : Toml → Option String
  | .str s => some s
  | _ => none

def nat? : Toml → Option Nat
  | .int n => if 0 ≤ n then some n.toNat else none
  | _ => none

end Toml

namespace StoreConfig

def ofToml (t : Toml) : Option StoreConfig := do
  let path ← Toml.orElse (← t.setting? "path" 0) ({} : StoreConfig).path Toml.string?
  let busy ← Toml.orElse (← t.setting? "busy_timeout_ms" 1) ({} : StoreConfig).busyTimeoutMillis
    Toml.nat?
  return ⟨path, busy⟩

end StoreConfig

namespace PagingConfig

def ofToml (t : Toml) : Option PagingConfig := do
  let standard ← Toml.orElse (← t.setting? "default_limit" 0) ({} : PagingConfig).defaultLimit
    Toml.nat?
  let most ← Toml.orElse (← t.setting? "max_limit" 1) ({} : PagingConfig).maxLimit Toml.nat?
  return ⟨standard, most⟩

end PagingConfig

namespace ProjectConfig

/-- The directory that marks a project. -/
def directory : String := ".witrack"

def ofText (s : String) : Option ProjectConfig := do
  let t ← Toml.parse s
  let store ← Toml.orElse (← t.setting? "database" 0) {} StoreConfig.ofToml
  let paging ← Toml.orElse (← t.setting? "paging" 1) {} PagingConfig.ofToml
  return ⟨store, paging⟩

/-- The place of the store of a project. -/
def storePath (c : ProjectConfig) (root : String) : String := Path.join root c.store.path

def toJson (c : ProjectConfig) : Json :=
  .obj [("database", .obj [("path", .str c.store.path),
      ("busy_timeout_ms", .int c.store.busyTimeoutMillis)]),
    ("paging", .obj [("default_limit", .int c.paging.defaultLimit),
      ("max_limit", .int c.paging.maxLimit)])]

/-- The nearest place at or above `start` that has the directory of a project. -/
def root? (isDirectory : List String → Bool) (start : List String) : Option (List String) :=
  (Path.ancestors start).find? fun place => isDirectory (place ++ [directory])

end ProjectConfig

namespace UserConfig

def ofText (s : String) : Option UserConfig := do
  let t ← Toml.parse s
  let output ← Toml.orElse (← t.setting? "output" 0) none fun t => (Toml.string? t).map some
  return ⟨output⟩

end UserConfig

/-! ## Output -/

/-- How the command line writes its results. -/
inductive OutputMode
  | pretty
  | text
  | json
deriving DecidableEq, Inhabited

namespace OutputMode

def name : OutputMode → String
  | pretty => "pretty"
  | text => "text"
  | json => "json"

def read? (s : String) : Option OutputMode :=
  let name := Text.lower (Text.trim s)
  if name = "pretty" ∨ name = "human" then some pretty
  else if name = "text" ∨ name = "plain" then some text
  else if name = "json" then some json
  else none

/-- What is asked for on the command line wins over the environment, and that over the user's
settings; otherwise a terminal gets the pretty form. -/
def resolve (asked : Bool) (user env : Option String) (terminal : Bool) : OutputMode :=
  if asked then json
  else
    match env.bind read?, user.bind read? with
    | some m, _ => m
    | none, some m => m
    | none, none => if terminal then pretty else text

end OutputMode

end Backlog
