import Backlog.Store.Basic

/-!
# Hosts

What the command line needs of the world around it: files by their absolute paths, stores kept in
files, fresh ids and a clock.
-/

namespace Backlog

/-- Why a file or a directory cannot be used. -/
inductive FileFault
  | missing
  | alreadyThere
  | notDirectory
  | isDirectory
  | notText
  | other (reason : String)
deriving DecidableEq

def FileFault.message : FileFault → String
  | missing => "No such file or directory (os error 2)"
  | alreadyThere => "File exists (os error 17)"
  | notDirectory => "Not a directory (os error 20)"
  | isDirectory => "Is a directory (os error 21)"
  | notText => "stream did not contain valid UTF-8"
  | other reason => reason

/-- Why a file cannot be opened as a store. -/
inductive OpenFault
  | unable
  | notStore
deriving DecidableEq

/-- A host whose answers come in a monad. -/
structure Host (m : Type → Type) where
  isThere : String → m Bool
  isDirectory : String → m Bool
  /-- Makes a directory and those above it that are missing. -/
  makeDirectory : String → m (Except FileFault Unit)
  readText : String → m (Except FileFault String)
  writeText : String → String → m (Except FileFault Unit)
  /-- Opens the store in a file, or makes an empty one. -/
  openStore : String → m (Except OpenFault Store)
  saveStore : String → Store → m Unit
  drawId : m Uuid
  /-- The time in microseconds since 1970. -/
  now : m Int
  /-- A clock for durations, in nanoseconds. -/
  clock : m Nat

end Backlog
