import Backlog.Command.Failure
import Backlog.Config
import Backlog.Host

/-!
# Projects

A project is a directory with `.witrack` in it, where its configuration lies. A command works on
the project whose directory is nearest at or above its own.
-/

namespace Backlog

/-- A project with its open store. -/
structure Project where
  root : String
  config : ProjectConfig
  store : Store

namespace Project

variable {m : Type → Type} [Monad m]

/-- Takes an answer of a host or fails with what it means. -/
def attempt {ε α : Type} (answer : m (Except ε α)) (f : ε → Failure) : ExceptT Failure m α :=
  ExceptT.mk do return (← answer).mapError f

def directory (root : String) : String := Path.join root ProjectConfig.directory

def configPath (root : String) : String := Path.join (directory root) "config.toml"

def ignorePath (root : String) : String := Path.join (directory root) ".gitignore"

def storePath (p : Project) : String := p.config.storePath p.root

/-! ## Opening -/

/-- The nearest directory of a project. -/
def find? (h : Host m) (place : String) : m (Option String) :=
  let above := (Path.ancestors (Path.parts place)).map Path.ofParts
  above.findM? fun root => h.isDirectory (directory root)

/-- The configuration of a project, or why there is none; a missing file stands for the standard
one. -/
def readConfig (h : Host m) (root : String) : m (Except String ProjectConfig) := do
  let path := configPath root
  if ← h.isThere path then
    match ← h.readText path with
    | .error f => return .error ("Failed to read " ++ path ++ ": " ++ f.message)
    | .ok text =>
      match ProjectConfig.ofText text with
      | some c => return .ok c
      | none => return .error ("Failed to parse " ++ path ++ ": TOML parse error")
  else return .ok {}

def openMessage (path : String) : OpenFault → String
  | .unable =>
    "open store " ++ path ++ ": unable to open database file: " ++ path ++
      ": Error code 14: Unable to open the database file"
  | .notStore =>
    "configure sqlite pragmas: file is not a database: " ++
      "Error code 26: File opened that is not a database file"

/-- Opens the store at a path, or says why it cannot. -/
def openStore (h : Host m) (path : String) : m (Except String Store) := do
  match ← h.makeDirectory (Path.parent path) with
  | .error f =>
    return .error ("create store directory " ++ Path.parent path ++ ": " ++ f.message)
  | .ok () => return (← h.openStore path).mapError (openMessage path)

/-- Opens the project that a place lies in. -/
def openAt (h : Host m) (place : String) : ExceptT Failure m Project := do
  match ← ExceptT.lift (find? h place) with
  | none => throw .notInitialized
  | some root =>
    let config ← attempt (readConfig h root) .config
    let path := config.storePath root
    let store ← attempt (openStore h path) fun reason =>
      .other ("Failed to open store at " ++ path ++ ": " ++ reason)
    return ⟨root, config, store⟩

/-! ## Making -/

/-- The configuration of a new project, with every setting at its standard value. -/
def standardConfig : String :=
  "[database]\npath = \".witrack/witrack.sqlite3\"\nbusy_timeout_ms = 5000\n\n" ++
    "[paging]\ndefault_limit = 20\nmax_limit = 100\n"

/-- The files that do not belong into version control. -/
def ignored : String := "*.sqlite3\n*.sqlite3-wal\n*.sqlite3-shm\n"

/-- Makes a project of a directory and opens its store. A configuration that is there stays. -/
def make (h : Host m) (force : Bool) (root : String) : ExceptT Failure m Project := do
  if (← h.isThere (directory root)) && !force then
    throw (.other (".witrack/ already exists. " ++
      "Use \x60wt init --force\x60 to reinitialize."))
  attempt (h.makeDirectory (directory root)) fun f =>
    .other ("Failed to create " ++ directory root ++ ": " ++ f.message)
  if !(← h.isThere (configPath root)) then
    attempt (h.writeText (configPath root) standardConfig) fun f =>
      .other ("Failed to write config: " ++ configPath root ++ ": " ++ f.message)
  attempt (h.writeText (ignorePath root) ignored) fun f =>
    .other ("Failed to write " ++ ignorePath root ++ ": " ++ f.message)
  let config ← attempt (readConfig h root) .other
  let store ← attempt (openStore h (config.storePath root)) .other
  return ⟨root, config, store⟩

end Project

end Backlog
