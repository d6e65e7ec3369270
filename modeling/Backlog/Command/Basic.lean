import Backlog.Calendar.Moment
import Backlog.Json.Printer
import Backlog.Uuid

/-!
# Commands

What can be asked for on the command line. Arguments that only make sense to the store stay
texts; ids, times and numbers have been read.
-/

namespace Backlog

/-- Field values on the command line: an object, and assignments that win over it. -/
structure FieldArguments where
  object : Option String := none
  assignments : List String := []
deriving DecidableEq

inductive Command
  | init (force : Bool)
  | createType (name : String) (extended : Option String) (fields : String)
  | showType (name : String)
  | listTypes (offset limit : Option Nat)
  | createItem (typeName creator : String) (fields : FieldArguments)
  | showItem (id : String)
  | listItems (filter offset limit : Option String)
  | updateItem (id : String) (version : Int) (typeName : Option String) (fields : FieldArguments)
  | assignItem (id version : String) (assignee : Option String)
  | deleteItem (id : String)
  | createIteration (name : String) (space parent : Option Uuid) (description : Option String)
      (startAt endAt : Option Moment)
  | showIteration (id : Uuid)
  | listIterations (space : Uuid)
  | startIteration (id : Uuid)
  | closeIteration (id : Uuid)
  | countItems (space : Uuid)
  | createIdentity (fullName : String) (imageUrl : Option String)
  | listIdentities

/-- The name under which a command is timed. -/
def Command.sample : Command → String
  | init .. => "cmd.init"
  | createType .. | showType .. | listTypes .. => "cmd.type"
  | createItem .. | showItem .. | listItems .. | updateItem .. | assignItem .. | deleteItem .. =>
    "cmd.item"
  | createIteration .. | showIteration .. | listIterations .. | startIteration ..
  | closeIteration .. | countItems .. => "cmd.iteration"
  | createIdentity .. | listIdentities => "cmd.identity"

/-- A command with what is asked for besides. -/
structure Invocation where
  command : Command
  json : Bool := false
  timing : Bool := false

end Backlog
