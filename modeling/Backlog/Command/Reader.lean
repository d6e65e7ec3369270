import Backlog.Calendar.Reader
import Backlog.Command.Arguments
import Backlog.Command.Basic
import Backlog.Number.Decimal

/-!
# Reading a command line

A command line names a group of commands and a command of it. `--json` and `--timing` may stand at
every level. What does not make sense as a whole is refused.
-/

namespace Backlog.Invocation

open Arguments (Given Level Opt)

/-! ## Levels -/

/-- Options that may stand everywhere. -/
def everywhere : List Opt := [{ name := "json", valued := false }, { name := "timing", valued := false }]

def option (name : String) : Opt := { name := name }

def flag (name : String) : Opt := { name := name, valued := false }

def anyOption (name : String) : Opt := { name := name, anyValue := true }

def assignments : Opt := { name := "set", letter := some 's', repeats := true }

def last (places : Nat) (options : List Opt) : Level :=
  { options := everywhere ++ options, places := places }

def group (commands : List String) : Level := { options := everywhere, commands := commands }

def top : Level :=
  { options := { name := "verbose", letter := some 'v', valued := false } :: everywhere
    commands := ["init", "type", "item", "iteration", "identity"] }

/-! ## Values -/

/-- The value of an option that may be missing, read by a reader that may refuse it. -/
def optional {α : Type} (g : Given) (name : String) (read : String → Option α) :
    Option (Option α) :=
  match g.value? name with
  | none => some none
  | some s => (read s).map some

def uuid? (s : String) : Option Uuid := (Uuid.read s).toOption

def moment? (s : String) : Option Moment := (Moment.readLoose s).toOption

def place? (g : Given) (index : Nat) : Option String := g.positional[index]?

def fields (g : Given) : FieldArguments := ⟨g.value? "fields", g.values "set"⟩

/-! ## Groups -/

def initCommand (args : List String) : Option (Given × Command) := do
  let g ← (last 0 [flag "force"]).readLast args
  return (g, .init (g.has "force"))

def typeCommand (name : String) (args : List String) : Option (Given × Command) :=
  match name with
  | "create" => do
    let g ← (last 1 [option "extends", option "fields"]).readLast args
    return (g, .createType (← place? g 0) (g.value? "extends")
      ((g.value? "fields").getD "\x7b\x7d"))
  | "show" => do
    let g ← (last 1 []).readLast args
    return (g, .showType (← place? g 0))
  | "list" => do
    let g ← (last 0 [option "offset", option "limit"]).readLast args
    return (g, .listTypes (← optional g "offset" Decimal.readNat64?)
      (← optional g "limit" Decimal.readNat64?))
  | _ => none

def itemCommand (name : String) (args : List String) : Option (Given × Command) :=
  match name with
  | "create" => do
    let typeOption : Opt := { name := "type", letter := some 't' }
    let g ← (last 0 [typeOption, option "creator", assignments, option "fields"]).readLast args
    return (g, .createItem (← g.value? "type") (← g.value? "creator") (fields g))
  | "show" => do
    let g ← (last 1 []).readLast args
    return (g, .showItem (← place? g 0))
  | "list" => do
    let g ← (last 0 [option "filter", anyOption "offset", anyOption "limit"]).readLast args
    return (g, .listItems (g.value? "filter") (g.value? "offset") (g.value? "limit"))
  | "update" => do
    let g ← (last 1 [option "version", option "type", assignments, option "fields"]).readLast args
    return (g, .updateItem (← place? g 0) (← (g.value? "version").bind Decimal.readInt64?)
      (g.value? "type") (fields g))
  | "assign" => do
    let g ← (last 1 [option "version", option "assignee", flag "clear"]).readLast args
    if g.has "clear" = g.has "assignee" then none
    else return (g, .assignItem (← place? g 0) (← g.value? "version") (g.value? "assignee"))
  | "delete" => do
    let g ← (last 1 []).readLast args
    return (g, .deleteItem (← place? g 0))
  | _ => none

/-- A command on one iteration. -/
def onIteration (make : Uuid → Command) (args : List String) : Option (Given × Command) := do
  let g ← (last 1 []).readLast args
  return (g, make (← (place? g 0).bind uuid?))

/-- A command on a space. -/
def onSpace (make : Uuid → Command) (args : List String) : Option (Given × Command) := do
  let g ← (last 0 [option "space"]).readLast args
  return (g, make (← (g.value? "space").bind uuid?))

def iterationCommand (name : String) (args : List String) : Option (Given × Command) :=
  match name with
  | "create" => do
    let g ← (last 1 [option "space", option "parent", option "description", option "start-at",
      option "end-at"]).readLast args
    if g.has "space" ∧ g.has "parent" then none
    else return (g, .createIteration (← place? g 0) (← optional g "space" uuid?)
      (← optional g "parent" uuid?) (g.value? "description") (← optional g "start-at" moment?)
      (← optional g "end-at" moment?))
  | "show" => onIteration .showIteration args
  | "list" => onSpace .listIterations args
  | "start" => onIteration .startIteration args
  | "close" => onIteration .closeIteration args
  | "counts" => onSpace .countItems args
  | _ => none

def identityCommand (name : String) (args : List String) : Option (Given × Command) :=
  match name with
  | "create" => do
    let g ← (last 1 [option "image-url"]).readLast args
    return (g, .createIdentity (← place? g 0) (g.value? "image-url"))
  | "list" => do
    let g ← (last 0 []).readLast args
    return (g, .listIdentities)
  | _ => none

/-! ## The whole line -/

/-- The commands of a group, and how they are read. -/
def groupOf? : String → Option (List String × (String → List String → Option (Given × Command)))
  | "type" => some (["create", "show", "list"], typeCommand)
  | "item" => some (["create", "show", "list", "update", "assign", "delete"], itemCommand)
  | "iteration" =>
    some (["create", "show", "list", "start", "close", "counts"], iterationCommand)
  | "identity" => some (["create", "list"], identityCommand)
  | _ => none

def ofLevels (levels : List Given) (command : Command) : Invocation :=
  { command := command
    json := levels.any (·.has "json")
    timing := levels.any (·.has "timing") }

/-- Reads a command line. -/
def ofArguments? (args : List String) : Option Invocation := do
  let (first, name, rest) ← top.readCommand args
  match groupOf? name with
  | none => do
    let (g, command) ← initCommand rest
    return ofLevels [first, g] command
  | some (commands, read) => do
    let (second, name, rest) ← (group commands).readCommand rest
    let (third, command) ← read name rest
    return ofLevels [first, second, third] command

end Backlog.Invocation
