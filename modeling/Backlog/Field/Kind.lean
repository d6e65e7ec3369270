import Backlog.Json.Decoder
import Backlog.Text.Blank

/-!
# Kinds of fields

A scalar kind holds one value. The two compound kinds, enumerations and lists, are built over a
scalar kind.

**Two shapes.** A value on the wire is what callers send and receive, a value in storage is what
is kept. Each kind names both.
-/

namespace Backlog

/-- The kinds of a single value. -/
inductive Scalar
  | string | integer | float | instant | duration | url | workItem | user
deriving DecidableEq, Inhabited

inductive Kind
  | scalar (s : Scalar)
  | enum
  | list
deriving DecidableEq, Inhabited

namespace Scalar

def all : List Scalar := [string, integer, float, instant, duration, url, workItem, user]

def name : Scalar → String
  | string => "string"
  | integer => "integer"
  | float => "float"
  | instant => "instant"
  | duration => "duration"
  | url => "url"
  | workItem => "workitem"
  | user => "user"

def wireShape : Scalar → String
  | string | url | user => "string"
  | workItem => "string or integer id"
  | integer | duration => "integer"
  | float => "number"
  | instant => "RFC 3339 timestamp"

def storageShape : Scalar → String
  | string | url | user | workItem => "string"
  | integer | duration | instant => "integer"
  | float => "number"

end Scalar

namespace Kind

def all : List Kind := Scalar.all.map scalar ++ [enum, list]

def name : Kind → String
  | scalar s => s.name
  | enum => "enum"
  | list => "list"

def scalar? : Kind → Option Scalar
  | scalar s => some s
  | _ => none

def isSimple (k : Kind) : Bool := k.scalar?.isSome

def wireShape : Kind → String
  | scalar s => s.wireShape
  | enum => "enum value"
  | list => "array"

def storageShape : Kind → String
  | scalar s => s.storageShape
  | enum => "enum value"
  | list => "array"

/-- Reads a kind by name, in letters of either size and with blanks around it. -/
def read? (s : String) : Option Kind :=
  let name := Text.lower (Text.trim s)
  all.find? (·.name = name)

def readMessage (s : String) : String := "invalid kind: '" ++ s ++ "'"

/-- In JSON a kind is its name. -/
def toJson (k : Kind) : Json := .str k.name

def decoder : Json.Decoder Kind := Json.Decoder.choice (all.map fun k => (k.name, k))

end Kind

end Backlog
