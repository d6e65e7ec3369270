import Backlog.Command.Output
import Backlog.Project
import Backlog.Timing

/-!
# Running commands

A command opens its project, runs its script on the store and writes what came of it. What is
written goes to two channels, and the exit code tells success from failure.
-/

namespace Backlog

/-- What the surroundings of a command line say. -/
structure Environment where
  /-- The wanted form of output. -/
  format : Option String := none
  /-- Whether commands are timed. -/
  timing : Option String := none
  /-- The text of the user's settings. -/
  settings : Option String := none
  /-- Whether output goes to a terminal. -/
  terminal : Bool := false

structure Outcome where
  exit : Nat
  output : String
  report : Option TimingReport
  errors : String

namespace Outcome

def reportText (r : TimingReport) : String :=
  if r.isEmpty then "timing report: no samples recorded\n"
  else
    "timing report:\n" ++ r.table ++ "\ntiming report (json):\n" ++ r.toJson.indentedText ++ "\n"

/-- All that goes to the channel for errors. -/
def errorText (o : Outcome) : String :=
  match o.report with
  | some r => reportText r ++ o.errors
  | none => o.errors

end Outcome

namespace Environment

/-- The user's settings; where they make no sense, there are none. -/
def user (e : Environment) : UserConfig := (e.settings.bind UserConfig.ofText).getD {}

def mode (e : Environment) (json : Bool) : OutputMode :=
  OutputMode.resolve json e.user.output e.format e.terminal

def wantsTiming (e : Environment) : Bool :=
  match e.timing with
  | some s => ["1", "true", "yes", "on"].contains (Text.lower (Text.trim s))
  | none => false

end Environment

/-! ## New projects -/

/-- What is told about a new project. -/
structure NewProject where
  root : String
  store : String
  types : List String

namespace NewProject

open Output (line named)

def toJson (p : NewProject) : Json :=
  .obj [("project_dir", .str (Project.directory p.root)), ("database", .str p.store),
    ("system_types", .arr (p.types.map .str))]

def words (p : NewProject) (mode : OutputMode) : String :=
  if mode = .text then line (Project.directory p.root)
  else
    line "Initialized .witrack/ project structure." ++ line "" ++ named "Database" p.store ++
      named "Config" (Project.configPath p.root) ++
      named "System types" (", ".intercalate p.types) ++ line "" ++ line "Next steps:" ++
      line "  wt identity create \"Your Name\"" ++
      line ("  wt item create --type system.bug --creator <identity-id> " ++
        "--set 'system.title=First bug'")

def text (p : NewProject) (mode : OutputMode) : String :=
  if mode = .json then line p.toJson.indentedText else p.words mode

end NewProject

namespace Command

variable {m : Type → Type} [Monad m]

/-! ## One command -/

/-- Runs the script of a command on the store of a project and keeps what it leaves. -/
def runIn (h : Host m) (c : Command) (p : Project) :
    m (Except Failure Result × List (String × Nat)) := do
  let now ← h.now
  let id ← h.drawId
  let space ← h.drawId
  let ((result, after), samples) ← (c.script p.config.paging ⟨now, id, space⟩).runTimed h.clock p.store
  h.saveStore p.storePath after
  return (result, samples)

def projectFor (h : Host m) (place : String) : Command → ExceptT Failure m Project
  | init force => Project.make h force place
  | _ => Project.openAt h place

/-- What a command writes when all went well. -/
def written (c : Command) (p : Project) (r : Result) (mode : OutputMode) : String :=
  match c, r.answer with
  | init _, .itemTypes ts => NewProject.text ⟨p.root, p.storePath, ts.map ItemType.name⟩ mode
  | _, _ => r.text mode

def runAt (h : Host m) (c : Command) (place : String) (mode : OutputMode) :
    m (Except Failure String × List (String × Nat)) := do
  match ← (c.projectFor h place).run with
  | .error f => return (.error f, [])
  | .ok p =>
    let (result, samples) ← c.runIn h p
    return (result.map fun r => c.written p r mode, samples)

end Command

namespace Invocation

variable {m : Type → Type} [Monad m]

def failureText (f : Failure) (mode : OutputMode) : String :=
  if mode = .json then Output.line f.toJson.text else f.text

/-- Runs what a command line asks for at a place. -/
def run (h : Host m) (env : Environment) (place : String) (i : Invocation) : m Outcome := do
  let mode := env.mode i.json
  let start ← h.clock
  let (result, samples) ← i.command.runAt h place mode
  let stop ← h.clock
  let report := Timing.report (samples ++ [(i.command.sample, stop - start)])
  let report := if i.timing || env.wantsTiming then some report else none
  match result with
  | .ok output => return ⟨0, output, report, ""⟩
  | .error f => return ⟨1, "", report, failureText f mode⟩

end Invocation

end Backlog
