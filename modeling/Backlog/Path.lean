/-!
# Paths

Paths of files, and the directories above a place.
-/

namespace Backlog.Path

/-- The parts of a path between slashes, without empty ones and without `.`. -/
def parts (path : String) : List String :=
  (path.splitOn "/").filter fun p => p ≠ "" ∧ p ≠ "."

def isAbsolute (path : String) : Bool := path.startsWith "/"

/-- A path below another; an absolute path stays as it is. -/
def join (base path : String) : String :=
  if isAbsolute path then path
  else if base = "" then path
  else if base.endsWith "/" then base ++ path
  else base ++ "/" ++ path

/-- A reversed path without slashes and `.` at its end. -/
def trimEnd : List Char → List Char
  | '/' :: cs => trimEnd cs
  | '.' :: '/' :: cs => trimEnd cs
  | cs => cs

/-- The directory that an absolute path lies in. -/
def parent (path : String) : String :=
  match trimEnd ((trimEnd path.toList.reverse).dropWhile (· ≠ '/')) with
  | [] => "/"
  | cs => String.ofList cs.reverse

/-- The absolute path of a place. -/
def ofParts (place : List String) : String := "/" ++ "/".intercalate place

/-- Takes `..` away from parts, whatever is there. -/
def flatten : List String → List String → List String
  | done, [] => done
  | done, p :: rest => flatten (if p = ".." then done.dropLast else done ++ [p]) rest

/-- Takes `..` away, where every directory on the way is there. -/
def resolve? (isDirectory : List String → Bool) : List String → List String → Option (List String)
  | done, [] => some done
  | done, p :: rest =>
    if ¬ isDirectory done then none
    else if p = ".." then
      if done.isEmpty then none else resolve? isDirectory done.dropLast rest
    else resolve? isDirectory (done ++ [p]) rest

/-- A place and the places above it, the nearest first. -/
def ancestors (place : List String) : List (List String) :=
  (List.range (place.length + 1)).map fun k => place.take (place.length - k)

end Backlog.Path
