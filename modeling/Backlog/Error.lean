import Backlog.Field.Definition

/-!
# Errors

Why an operation of the library fails. Every error has a code that stays stable, and some codes
come with a hint for the reader.
-/

namespace Backlog

/-- The stable classes of errors, those of the command line included. -/
inductive ErrorCode
  | notInitialized
  | configParse
  | notFound
  | badParameter
  | requiredField
  | conversion
  | versionConflict
  | malformedSchema
  | internal
deriving DecidableEq

namespace ErrorCode

def code : ErrorCode → String
  | notInitialized => "E1001"
  | configParse => "E1002"
  | notFound => "E2001"
  | badParameter => "E2002"
  | requiredField => "E2003"
  | conversion => "E2004"
  | versionConflict => "E2005"
  | malformedSchema => "E2006"
  | internal => "E9001"

def message : ErrorCode → String
  | notInitialized => "Project not initialized"
  | configParse => "Config file parse error"
  | notFound => "Entity not found"
  | badParameter => "Bad parameter"
  | requiredField => "Required field missing"
  | conversion => "Field value does not match its type"
  | versionConflict => "Version conflict"
  | malformedSchema => "Malformed field schema"
  | internal => "Internal unexpected error"

def hint? : ErrorCode → Option String
  | notInitialized => some "Run \x60wt init\x60 to initialize this directory."
  | configParse => some "Fix syntax in .witrack/config.toml and retry."
  | notFound | badParameter => none
  | requiredField => some "Supply a non-null value for every required field."
  | conversion => some "Check the field's kind with \x60wt type show <name>\x60."
  | versionConflict =>
    some "Reload the item, reapply your change, and retry with the new version."
  | malformedSchema =>
    some ("Every field type needs a \"kind\" of string, integer, float, instant, duration, url, " ++
      "workitem, user, enum or list.")
  | internal => some "Retry once. If persistent, report a bug with logs."

end ErrorCode

/-- The things that have names of their own. -/
inductive Entity
  | workItem
  | itemType
  | iteration
  | identity
deriving DecidableEq

def Entity.name : Entity → String
  | workItem => "work item"
  | itemType => "work item type"
  | iteration => "iteration"
  | identity => "identity"

inductive Error
  | notFound (entity : Entity) (id : String)
  | badParameter (parameter reason : String)
  | requiredField (field : String)
  | conversion (field : String) (cause : ConversionError)
  | versionConflict (entity : Entity) (id expected : String) (actual : Int)
  | malformedSchema (fault : SchemaFault)
  | internal (reason : String)

namespace Error

def message : Error → String
  | notFound entity id => entity.name ++ " '" ++ id ++ "' not found"
  | badParameter parameter reason => "bad value for parameter '" ++ parameter ++ "': " ++ reason
  | requiredField field => "value for field '" ++ field ++ "' is required"
  | conversion field cause => "field '" ++ field ++ "': " ++ cause.message
  | versionConflict entity id expected actual =>
    "version conflict on " ++ entity.name ++ " '" ++ id ++ "': caller has version " ++ expected ++
      ", stored version is " ++ String.ofList (Json.intChars actual)
  | malformedSchema fault => "malformed schema: " ++ fault.message
  | internal reason => "internal error: " ++ reason

def code : Error → ErrorCode
  | notFound .. => .notFound
  | badParameter .. => .badParameter
  | requiredField .. => .requiredField
  | conversion .. => .conversion
  | versionConflict .. => .versionConflict
  | malformedSchema .. => .malformedSchema
  | internal .. => .internal

def hint? (e : Error) : Option String := e.code.hint?

/-- The messages of an error and of what caused it, the error first. -/
def messages (e : Error) : List String :=
  e.message :: match e with
    | conversion _ cause => cause.messages
    | _ => []

end Error

end Backlog
