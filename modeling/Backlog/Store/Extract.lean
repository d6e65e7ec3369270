import Backlog.Filter.Predicate
import Backlog.Json.Parser
import Backlog.Number.Extended

/-!
# Fields of a stored text

Predicates look at the text of a row. The text is read as written: the first member with a key
counts, and a key matches only if it is spelled without escapes. A comma may stand behind the last
item of a list or an object. Lists and objects are what is written between their brackets, blanks
aside, whatever numbers and escapes that holds.

**Numbers** have no range. They are not read as the values of a row are that is loaded: one text may
stand for two floating numbers, and one of them may be infinite.
-/

namespace Backlog.Stored

open Json (Reader skipSpace)

/-- How deep a stored text may nest. -/
def depthLimit : Nat := 1000

/-! ## Values -/

/-- A value of a text: what it is in a comparison, and its characters without blanks. -/
structure Found where
  datum : Datum
  chars : List Char

namespace Found

def enclosed (opening closing : Char) (parts : List (List Char)) : Found :=
  let chars := opening :: ((parts.flatMap (',' :: ·)).tail ++ [closing])
  ⟨.text (String.ofList chars), chars⟩

def list (xs : List Found) : Found := enclosed '[' ']' (xs.map (·.chars))

/-- An object of members by the spelling of their keys. -/
def object (ms : List (String × Found)) : Found :=
  enclosed '\x7b' '\x7d' (ms.map fun m => '"' :: m.1.toList ++ '"' :: ':' :: m.2.chars)

end Found

/-- The characters before a rest of them. -/
def before (cs rest : List Char) : List Char := cs.take (cs.length - rest.length)

/-! ## Reading -/

/-- The items of a list from a place where one may start or the list may end. -/
def items (item : Reader Found) : Nat → Reader (List Found)
  | 0, _ => .error .endInList
  | n + 1, cs =>
    match skipSpace cs with
    | ']' :: rest => .ok ([], rest)
    | cs => do
      let (x, rest) ← item cs
      match skipSpace rest with
      | ',' :: rest => do
        let (xs, rest) ← items item n rest
        return (x :: xs, rest)
      | ']' :: rest => return ([x], rest)
      | _ => .error .expectedCommaOrBracket

/-- The members of an object, given how a key is read behind its quote. -/
def members (key : Reader String) (value : Reader Found) : Nat → Reader (List (String × Found))
  | 0, _ => .error .endInObject
  | n + 1, cs =>
    match skipSpace cs with
    | '\x7d' :: rest => .ok ([], rest)
    | '"' :: rest => do
      let (k, rest) ← key rest
      let (x, rest) ← value (← Json.colon rest)
      match skipSpace rest with
      | ',' :: rest => do
        let (ms, rest) ← members key value n rest
        return ((k, x) :: ms, rest)
      | '\x7d' :: rest => return ([(k, x)], rest)
      | _ => .error .expectedCommaOrBrace
    | _ => .error .keyNotString

/-- A number by its characters behind the sign: an integer of 64 bits, or else a floating one. -/
def numberOf (negative : Bool) (cs : List Char) : Datum :=
  let n : Int := if negative then -Decimal.ofDigits cs else Decimal.ofDigits cs
  if cs.all Char.isDigit ∧ Decimal.IsInt64 n then .int n
  else match (Extended.read cs).toBinary? negative with
    | some x => .real x
    | none => .infinite negative

/-- A number after its sign. -/
def number (negative : Bool) : Reader Found := fun cs => do
  let rest ← Json.skipNumber cs
  let digits := before cs rest
  return (⟨numberOf negative digits, (if negative then ['-'] else []) ++ digits⟩, rest)

/-- A word or a string. -/
def word : Reader Found := fun cs => do
  let (v, rest) ← Json.value 0 cs
  return (⟨.ofJson v, before cs rest⟩, rest)

/-- A value of which lists and objects are read as given, from their opening on. -/
def valueOf (list : Reader (List Found)) (object : Reader (List (String × Found))) :
    Reader Found := fun cs =>
  match skipSpace cs with
  | '[' :: rest => do
    let (xs, rest) ← list rest
    return (.list xs, rest)
  | '\x7b' :: rest => do
    let (ms, rest) ← object rest
    return (.object ms, rest)
  | '-' :: rest => number true rest
  | c :: rest => if c.isDigit then number false (c :: rest) else word (c :: rest)
  | [] => .error .endInValue

/-- A key by its spelling, which has to be that of a string. -/
def innerKey : Reader String := fun cs => do
  let (_, rest) ← Json.string cs
  return (String.ofList (before cs rest).dropLast, rest)

def value : Nat → Reader Found
  | 0 => valueOf (fun _ => .error .tooDeep) (fun _ => .error .tooDeep)
  | depth + 1 =>
    valueOf (fun cs => items (value depth) (cs.length + 1) cs)
      (fun cs => members innerKey (value depth) (cs.length + 1) cs)

/-- The spelling of a string up to its closing quote. -/
def spelling : Nat → List Char → Except Json.Fault (List Char × List Char)
  | 0, _ => .error .endInString
  | _ + 1, [] => .error .endInString
  | _ + 1, '"' :: rest => .ok ([], rest)
  | n + 1, '\\' :: c :: rest => do
    let (cs, rest) ← spelling n rest
    return ('\\' :: c :: cs, rest)
  | n + 1, c :: rest => do
    let (cs, rest) ← spelling n rest
    return (c :: cs, rest)

def rawKey : Reader String := fun cs => do
  let (s, rest) ← spelling (cs.length + 1) cs
  return (String.ofList s, rest)

/-- The members of a stored text by the spelling of their keys; a text of another type of value
has none. -/
def read (s : String) : Except Json.Fault (List (String × Found)) :=
  match skipSpace s.toList with
  | '\x7b' :: rest => do
    let (ms, rest) ← members rawKey (value (depthLimit - 1)) (rest.length + 1) rest
    Json.finish rest
    return ms
  | cs => do
    let (_, rest) ← value depthLimit cs
    Json.finish rest
    return []

/-- A text that can be read. -/
def isReadable (s : String) : Bool := (read s).toBool

/-- The value of a field of a stored text. -/
def extract (s field : String) : Datum :=
  match read s with
  | .ok ms => ((Record.lookup field ms).map (·.datum)).getD .null
  | .error _ => .null

/-! ## Paths -/

/-- The field that a path names. -/
def fieldOfPath? (path : Datum) : Option String :=
  match path with
  | .text s =>
    match s.toList with
    | '$' :: '.' :: '"' :: rest =>
      if rest.getLast? = some '"' then some (String.ofList rest.dropLast) else none
    | _ => none
  | _ => none

def extractAt (s : String) (path : Datum) : Datum :=
  match fieldOfPath? path with
  | some field => extract s field
  | none => .null

/-- What is wrong with a path, which ends before its first NUL. -/
def pathFault? (path : Datum) : Option String :=
  match fieldOfPath? path with
  | some field =>
    if field.toList.any (·.toNat = 0) then
      let front := field.toList.takeWhile (·.toNat ≠ 0)
      some ("JSON path error near '\"" ++
        String.ofList (front.flatMap fun c => if c = '\x27' then [c, c] else [c]) ++ "'")
    else none
  | none => none

/-- A look at a path, which fails where the path is not well formed. -/
def lookAt (s : String) (path : Datum) : Except String Datum :=
  match pathFault? path with
  | some reason => .error reason
  | none => .ok (extractAt s path)

/-- The text of a value with the capitals of the ASCII range made small. -/
def lowered : Datum → Option String
  | .null => none
  | .int n =>
    if Decimal.IsInt64 n then some (String.ofList (Json.intChars n))
    else some (if n < 0 then "-inf" else "inf")
  | .real x => some (String.ofList x.roundedChars)
  | .text s => some (Text.lower s)

end Backlog.Stored
