import Backlog.Host
import Backlog.Path

/-!
# Workspaces

A host in memory: directories and files by their places, the parts of their absolute paths. A file
holds a text or a store.
-/

namespace Backlog

inductive Content
  | text (s : String)
  | store (s : Store)

structure Workspace where
  directories : List (List String) := [[]]
  files : List (List String × Content) := []
  /-- How many ids were drawn. -/
  drawn : Nat := 0
  now : Int := 0

namespace Workspace

def isDirectory (w : Workspace) (place : List String) : Bool := w.directories.contains place

def content? (w : Workspace) (place : List String) : Option Content :=
  (w.files.find? (·.1 = place)).map (·.2)

/-- The place of a path, where the directories on its way are there. -/
def place? (w : Workspace) (path : String) : Option (List String) :=
  Path.resolve? w.isDirectory [] (Path.parts path)

def isThere (w : Workspace) (path : String) : Bool :=
  match w.place? path with
  | some place => w.isDirectory place || (w.content? place).isSome
  | none => false

def put (w : Workspace) (place : List String) (c : Content) : Workspace :=
  { w with files := (place, c) :: w.files.filter (·.1 ≠ place) }

/-! ## Directories -/

/-- Makes the directories that are missing on a way. -/
def makeFrom (w : Workspace) : List String → List String → Except FileFault Workspace
  | _, [] => .ok w
  | done, p :: rest =>
    if p = ".." then makeFrom w done.dropLast rest
    else if w.isDirectory (done ++ [p]) then makeFrom w (done ++ [p]) rest
    else if (w.content? (done ++ [p])).isSome then
      .error (if rest.isEmpty then .alreadyThere else .notDirectory)
    else makeFrom { w with directories := (done ++ [p]) :: w.directories } (done ++ [p]) rest

def makeDirectory (w : Workspace) (path : String) : Except FileFault Unit × Workspace :=
  match w.makeFrom [] (Path.parts path) with
  | .ok w => (.ok (), w)
  | .error f => (.error f, w)

/-! ## Files -/

def readText (w : Workspace) (path : String) : Except FileFault String :=
  match w.place? path with
  | none => .error .missing
  | some place =>
    if w.isDirectory place then .error .isDirectory
    else
      match w.content? place with
      | some (.text s) => .ok s
      | some (.store _) => .error .notText
      | none => .error .missing

def writeText (w : Workspace) (path text : String) : Except FileFault Unit × Workspace :=
  match w.place? path with
  | none => (.error .missing, w)
  | some place =>
    if w.isDirectory place then (.error .isDirectory, w) else (.ok (), w.put place (.text text))

/-! ## Stores -/

/-- Where the store of a path lies; `..` goes up whatever is there. -/
def storePlace (path : String) : List String := Path.flatten [] (Path.parts path)

/-- Opens a store. An empty file holds an empty store, and so does a file that is not there. -/
def openStore (w : Workspace) (path : String) : Except OpenFault Store × Workspace :=
  let place := storePlace path
  if w.isDirectory place || !w.isDirectory place.dropLast then (.error .unable, w)
  else
    match w.content? place with
    | some (.store s) => (.ok s, w)
    | some (.text s) =>
      if s.isEmpty then (.ok .empty, w.put place (.store .empty)) else (.error .notStore, w)
    | none => (.ok .empty, w.put place (.store .empty))

def saveStore (w : Workspace) (path : String) (s : Store) : Workspace :=
  w.put (storePlace path) (.store s)

/-! ## The host -/

/-- Changes the workspace and answers. -/
def stateful {α : Type} (f : Workspace → α × Workspace) : StateM Workspace α := fun w => f w

/-- The host of workspaces, with the ids that it draws one after the other. -/
def host (idAt : Nat → Uuid) : Host (StateM Workspace) where
  isThere path := stateful fun w => (w.isThere path, w)
  isDirectory path := stateful fun w => ((w.place? path).any w.isDirectory, w)
  makeDirectory path := stateful (·.makeDirectory path)
  readText path := stateful fun w => (w.readText path, w)
  writeText path text := stateful (·.writeText path text)
  openStore path := stateful (·.openStore path)
  saveStore path s := stateful fun w => ((), w.saveStore path s)
  drawId := stateful fun w => (idAt w.drawn, { w with drawn := w.drawn + 1 })
  now := stateful fun w => (w.now, { w with now := w.now + 1 })
  clock := pure 0

end Workspace

end Backlog
