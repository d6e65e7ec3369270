import Backlog.Json.Printer
import Backlog.Text.Quoted

/-!
# Faults of JSON texts and of the data in them

What can be wrong with a text as JSON, and what can be wrong with a JSON value as a value of some
other type.
-/

namespace Backlog.Json

inductive Fault
  | endInValue
  | endInList
  | endInObject
  | endInString
  | expectedValue
  | expectedIdent
  | expectedColon
  | expectedCommaOrBracket
  | expectedCommaOrBrace
  | trailingComma
  | trailingCharacters
  | keyNotString
  | badNumber
  | numberOutOfRange
  | badEscape
  | hexEscapeEnd
  | loneSurrogate
  | controlCharacter
  | tooDeep
  | missingField (name : String)
  | duplicateField (name : String)
  | unknownField (name : String) (known : List String)
  | unknownVariant (name : String) (known : List String)
  | invalidType (found expected : String)
  | invalidValue (found expected : String)
  | invalidLength (length : Nat) (expected : String)
  | custom (message : String)
deriving DecidableEq

/-- A name between back quotes. -/
def ticked (name : String) : String := "\x60" ++ name ++ "\x60"

/-- The names that were possible, as the end of a message. -/
def oneOf : List String → String
  | [] => "there are no fields"
  | [a] => "expected " ++ ticked a
  | [a, b] => "expected " ++ ticked a ++ " or " ++ ticked b
  | names => "expected one of " ++ ", ".intercalate (names.map ticked)

def Fault.message : Fault → String
  | endInValue => "EOF while parsing a value"
  | endInList => "EOF while parsing a list"
  | endInObject => "EOF while parsing an object"
  | endInString => "EOF while parsing a string"
  | expectedValue => "expected value"
  | expectedIdent => "expected ident"
  | expectedColon => "expected " ++ ticked ":"
  | expectedCommaOrBracket => "expected " ++ ticked "," ++ " or " ++ ticked "]"
  | expectedCommaOrBrace => "expected " ++ ticked "," ++ " or " ++ ticked "\x7d"
  | trailingComma => "trailing comma"
  | trailingCharacters => "trailing characters"
  | keyNotString => "key must be a string"
  | badNumber => "invalid number"
  | numberOutOfRange => "number out of range"
  | badEscape => "invalid escape"
  | hexEscapeEnd => "unexpected end of hex escape"
  | loneSurrogate => "lone leading surrogate in hex escape"
  | controlCharacter => "control character (\\u0000-\\u001F) found while parsing a string"
  | tooDeep => "recursion limit exceeded"
  | missingField name => "missing field " ++ ticked name
  | duplicateField name => "duplicate field " ++ ticked name
  | unknownField name known => "unknown field " ++ ticked name ++ ", " ++ oneOf known
  | unknownVariant name known => "unknown variant " ++ ticked name ++ ", " ++ oneOf known
  | invalidType found expected => "invalid type: " ++ found ++ ", expected " ++ expected
  | invalidValue found expected => "invalid value: " ++ found ++ ", expected " ++ expected
  | invalidLength n expected => "invalid length " ++ toString n ++ ", expected " ++ expected
  | custom message => message

/-! ## What was found instead -/

def foundBool (b : Bool) : String := "boolean " ++ ticked (if b then "true" else "false")

def foundInt (n : Int) : String := "integer " ++ ticked (String.ofList (intChars n))

def foundFloat (x : Binary64) : String := "floating point " ++ ticked x.text

def foundString (s : String) : String := "string " ++ Text.quoted s

/-- The name of a value in a message about its type. -/
def found : Json → String
  | null => "null"
  | bool b => foundBool b
  | int n => foundInt n
  | float x => foundFloat x
  | str s => foundString s
  | arr _ => "sequence"
  | obj _ => "map"

end Backlog.Json
