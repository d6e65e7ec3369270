import Backlog.Command.Reader
import Backlog.Command.Run
import Backlog.Store.Encoding
import Std.Time.DateTime.Timestamp

/-!
# The program

The command line on a machine: files on its disk, random ids and its clock.
-/

namespace Backlog.Disk

def succeeds {α : Type} (a : IO α) : IO Bool := do
  try
    let _ ← a
    return true
  catch _ => return false

def faultOf : IO.Error → FileFault
  | .noFileOrDirectory .. => .missing
  | .alreadyExists .. => .alreadyThere
  | e => .other (toString e)

/-- Does something that may fail for reasons of the disk. -/
def attempt {α : Type} (a : IO α) : IO (Except FileFault α) := do
  try return .ok (← a)
  catch e => return .error (faultOf e)

def isThere (path : String) : IO Bool := succeeds (IO.FS.realPath path)

def isDirectory (path : String) : IO Bool := succeeds (IO.FS.realPath (path ++ "/."))

def storeOf? (text : String) : Option Store :=
  if text.isEmpty then some .empty else (Json.parse text).toOption.bind Store.ofJson?

def openStore (path : String) : IO (Except OpenFault Store) := do
  if ← isDirectory path then return .error .unable
  if !(← isThere path) then return .ok .empty
  match ← attempt (IO.FS.readFile path) with
  | .error _ => return .error .unable
  | .ok text =>
    match storeOf? text with
    | some s => return .ok s
    | none => return .error .notStore

def drawId : IO Uuid := do
  let bytes ← IO.getRandomBytes 16
  return (Uuid.ofRandom (bytes.toList.map UInt8.toNat)).getD default

def now : IO Int := do
  let t ← Std.Time.Timestamp.now
  return t.toNanosecondsSinceUnixEpoch.val / 1000

def host : Host IO where
  isThere := isThere
  isDirectory := isDirectory
  makeDirectory path := attempt (IO.FS.createDirAll path)
  readText path := attempt (IO.FS.readFile path)
  writeText path text := attempt (IO.FS.writeFile path text)
  openStore := openStore
  saveStore path s := IO.FS.writeFile path s.toJson.text
  drawId := drawId
  now := now
  clock := IO.monoNanosNow

/-- The directory of the user's settings. -/
def settingsDirectory : IO (Option String) := do
  match ← IO.getEnv "XDG_CONFIG_HOME", ← IO.getEnv "HOME" with
  | some d, home =>
    if Path.isAbsolute d then return some d
    else return home.map fun h => Path.join h ".config"
  | none, home => return home.map fun h => Path.join h ".config"

def settings : IO (Option String) := do
  match ← settingsDirectory with
  | none => return none
  | some d => return (← attempt (IO.FS.readFile (Path.join d "witrack/config.toml"))).toOption

def environment : IO Environment := do
  let output ← IO.getStdout
  return {
    format := ← IO.getEnv "FORMAT"
    timing := ← IO.getEnv "WITRACK_TIMING"
    settings := ← settings
    terminal := ← output.isTty }

end Backlog.Disk

open Backlog

def main (args : List String) : IO UInt32 := do
  match Invocation.ofArguments? args with
  | none =>
    IO.eprintln "usage: wt <init|type|item|iteration|identity> ..."
    return 2
  | some i =>
    let place := toString (← IO.currentDir)
    let outcome ← i.run Disk.host (← Disk.environment) place
    IO.print outcome.output
    IO.eprint outcome.errorText
    return outcome.exit.toUInt32
