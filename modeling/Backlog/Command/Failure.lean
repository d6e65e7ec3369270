import Backlog.Error

/-!
# Failures of commands

Why a command fails, and how that is told: in words with the code and a hint, or as an object.
-/

namespace Backlog

inductive Failure
  /-- There is no project at or above the place. -/
  | notInitialized
  /-- The configuration of the project cannot be used. -/
  | config (reason : String)
  /-- The store refuses an operation; the texts say during what. -/
  | refused (during : List String) (error : Error)
  | other (reason : String)

namespace Failure

def code : Failure → ErrorCode
  | notInitialized => .notInitialized
  | config _ => .configParse
  | refused _ error => error.code
  | other _ => .internal

def message : Failure → String
  | notInitialized => "no .witrack directory found in this directory or any parent"
  | config reason => reason
  | refused during error => ": ".intercalate (during ++ error.messages)
  | other reason => reason

/-- A failure in words. -/
def text (f : Failure) : String :=
  "error[" ++ f.code.code ++ "]: " ++ f.message ++ "\n" ++
    match f.code.hint? with
    | some hint => "  hint: " ++ hint ++ "\n"
    | none => ""

def toJson (f : Failure) : Json :=
  .obj ([("code", .str f.code.code), ("error", .str f.message)] ++
    (f.code.hint?.map fun hint => ("hint", Json.str hint)).toList)

end Failure

end Backlog
