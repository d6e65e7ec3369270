import Backlog.Error

/-!
# Values under field definitions

A required field has to have a value; a missing value and `null` are the same. A record of values
converts field by field in the order of names: absent fields are left out, and values under names
that the set does not declare stay as they are.
-/

namespace Backlog

/-- The two ways a value converts. -/
inductive Direction
  | toStorage
  | toWire
deriving DecidableEq

def FieldType.convert (t : FieldType) : Direction → Json → Scalar.Conversion
  | .toStorage => t.toStorage
  | .toWire => t.toWire

namespace FieldDefinition

def convert (d : FieldDefinition) (dir : Direction) (name : String) (value : Option Json) :
    Except Error Json :=
  match value with
  | none | some .null => if d.required then .error (.requiredField name) else .ok .null
  | some v => (d.type.convert dir v).mapError (.conversion name)

end FieldDefinition

namespace FieldSet

/-- Converts the declared fields in order and leaves out those that are absent. -/
def convertDeclared (dir : Direction) (input : Record Json) :
    List (String × FieldDefinition) → Except Error (List (String × Json))
  | [] => .ok []
  | (name, d) :: rest => do
    let v ← d.convert dir name (input.find? name)
    let vs ← convertDeclared dir input rest
    return if v.isNull then vs else (name, v) :: vs

/-- The entries under names that the set does not declare. -/
def undeclared (fs : FieldSet) (input : Record Json) : List (String × Json) :=
  input.entries.filter fun e => !fs.contains e.1

def convert (fs : FieldSet) (dir : Direction) (input : Record Json) :
    Except Error (Record Json) := do
  let declared ← convertDeclared dir input fs.entries
  return Record.ofList (declared ++ fs.undeclared input)

def toStorage (fs : FieldSet) (input : Record Json) : Except Error (Record Json) :=
  fs.convert .toStorage input

def toWire (fs : FieldSet) (stored : Record Json) : Except Error (Record Json) :=
  fs.convert .toWire stored

end FieldSet

end Backlog
