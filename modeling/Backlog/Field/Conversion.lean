import Backlog.Calendar.Printer
import Backlog.Calendar.Reader
import Backlog.Field.Kind
import Backlog.Url.Address

/-!
# Conversion of scalar values

**To storage** a value takes one spelling: numbers of a float field are floating, ids of items are
trimmed texts, instants are microseconds.

**To the wire** a stored value is shown again: instants as text.
-/

namespace Backlog

/-- The name of a value's type in messages about its shape. -/
def Json.shape : Json → String
  | null => "null"
  | bool _ => "boolean"
  | int _ => "integer"
  | float _ => "float"
  | str _ => "string"
  | arr _ => "array"
  | obj _ => "object"

/-- Why a value does not convert. -/
inductive ConversionError
  /-- The value has the wrong type. -/
  | shape (expected : String) (value : Json)
  /-- The value has the right type but is not well formed. -/
  | malformed (kind : Scalar) (value : Json) (reason : String)
  /-- The value is not among those of the enumeration. -/
  | notAllowed (value : Json) (allowed : List Json)
  /-- An element of a list does not convert. -/
  | element (index : Nat) (cause : ConversionError)
  /-- A compound kind stands where a scalar one has to. -/
  | notSimple (kind : Kind)
  /-- An enumeration without values. -/
  | emptyEnum

def ConversionError.message : ConversionError → String
  | shape expected value =>
    "value " ++ value.text ++ " should be " ++ expected ++ ", but is " ++ value.shape
  | malformed kind value reason =>
    "value " ++ value.text ++ " is not a valid " ++ kind.name ++ ": " ++ reason
  | notAllowed value allowed =>
    "value " ++ value.text ++ " is not one of the allowed values [" ++
      ", ".intercalate (allowed.map Json.text) ++ "]"
  | element index cause => "list element " ++ toString index ++ ": " ++ cause.message
  | notSimple kind => kind.name ++ " is not a simple kind"
  | emptyEnum => "enum must declare at least one value"

/-- The messages of an error and of what caused it, the error first. -/
def ConversionError.messages (e : ConversionError) : List String :=
  e.message :: match e with
    | element _ cause => cause.messages
    | _ => []

namespace Scalar

abbrev Conversion := Except ConversionError Json

/-- The value, where it has the type that a part of it tells. -/
def require {α : Type} (expected : String) (v : Json) (part : Option α) (f : α → Json) :
    Conversion :=
  match part with
  | some x => .ok (f x)
  | none => .error (.shape expected v)

/-- An item is named by a text that is not blank, or by a natural number. -/
def itemIdToStorage (v : Json) : Conversion :=
  match v with
  | .str s =>
    if (Text.trim s).isEmpty then .error (.malformed workItem v "identifier is empty")
    else .ok (.str (Text.trim s))
  | v => require workItem.wireShape v v.nat64? fun n => .str (String.ofList (Nat.toDigits 10 n))

def urlToStorage (v : Json) : Conversion :=
  match v with
  | .str s =>
    match Url.check s with
    | .ok () => .ok v
    | .error e => .error (.malformed url v e.message)
  | v => .error (.shape url.wireShape v)

def instantToStorage (v : Json) : Conversion :=
  match v with
  | .str s =>
    match Moment.readStrict s with
    | .ok t => .ok (.int t.micros)
    | .error e => .error (.malformed instant v e.message)
  | v => .error (.shape instant.wireShape v)

/-- Converts a wire value into its stored spelling. -/
def toStorage (s : Scalar) (v : Json) : Conversion :=
  match s with
  | string | user => require s.wireShape v v.string? .str
  | integer | duration => require s.wireShape v v.int64? .int
  | float => require s.wireShape v v.binary64? .float
  | url => urlToStorage v
  | workItem => itemIdToStorage v
  | instant => instantToStorage v

def instantToWire (v : Json) : Conversion :=
  match v.int64? with
  | none => .error (.shape instant.storageShape v)
  | some us =>
    match Moment.ofMicros? us with
    | some t => .ok (.str t.microText)
    | none => .error (.malformed instant v "timestamp out of range")

/-- Converts a stored value into the value that callers see. -/
def toWire (s : Scalar) (v : Json) : Conversion :=
  match s with
  | string | user | url | workItem => require s.storageShape v v.string? .str
  | integer | duration => require s.storageShape v v.int64? .int
  | float => require s.storageShape v v.binary64? .float
  | instant => instantToWire v

end Scalar

end Backlog
