import Backlog.Command.Basic
import Backlog.Command.Failure
import Backlog.Json.Parser
import Backlog.Text.Blank
import Backlog.WorkItem

/-!
# Field values on the command line

Values come as one object and as assignments `name=value`. An assignment wins over the object and
over the assignments before it. The text of an assigned value is taken as JSON where it is JSON,
and as a text of its own otherwise.
-/

namespace Backlog.FieldArguments

/-- The members of the object, if one is given. -/
def readObject : Option String → Except Failure (Record Json)
  | none => .ok .empty
  | some s =>
    match Json.parse s with
    | .error f => .error (.other ("--fields is not valid JSON: " ++ f.message))
    | .ok v =>
      match v.record? with
      | some r => .ok r
      | none => .error (.other "--fields must be a JSON object")

/-- The value that a text stands for. -/
def valueOf (s : String) : Json :=
  match Json.parse s with
  | .ok v => v
  | .error _ => .str s

/-- The name and the value of an assignment. -/
def readAssignment (s : String) : Except Failure (String × Json) :=
  match s.toList.dropWhile (· ≠ '=') with
  | [] => .error (.other ("expected key=value, got '" ++ s ++ "'"))
  | _ :: value =>
    let name := Text.trim (String.ofList (s.toList.takeWhile (· ≠ '=')))
    if name.isEmpty then .error (.other ("empty field name in '" ++ s ++ "'"))
    else .ok (name, valueOf (String.ofList value))

def insertAll (r : Record Json) (values : List (String × Json)) : Record Json :=
  values.foldl (fun r e => r.insert e.1 e.2) r

/-- The value given last for every name. -/
def read (a : FieldArguments) : Except Failure (Record Json) := do
  let object ← readObject a.object
  let assigned ← a.assignments.mapM readAssignment
  return insertAll object assigned

/-- Sets the fields to the values, and takes away those with the value `null`. -/
def applyTo (values fields : Record Json) : Record Json :=
  values.entries.foldl
    (fun r e => if e.2.isNull then r.erase e.1 else r.insert e.1 e.2) fields

end Backlog.FieldArguments
