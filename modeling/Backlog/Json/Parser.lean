import Backlog.Json.Reader

/-!
# Reading a JSON value

A text holds one value, with blanks around it. Arrays and objects nest at most 127 deep. Of a
member that is given twice the last stays.

**Values that are passed over** follow a looser grammar: they nest without bound, their numbers
have no range and their escapes may name half a character.
-/

namespace Backlog.Json

/-- How deep arrays and objects may nest. -/
def depthLimit : Nat := 127

/-! ## Values -/

/-- A value of which lists and objects are read as given, from their opening on. -/
def valueOf (list : Reader (List Json)) (object : Reader (List (String × Json))) : Reader Json :=
  fun cs =>
    match skipSpace cs with
    | [] => .error .endInValue
    | 'n' :: rest => do return (null, (← word ['u', 'l', 'l'] rest).2)
    | 't' :: rest => do return (bool true, (← word ['r', 'u', 'e'] rest).2)
    | 'f' :: rest => do return (bool false, (← word ['a', 'l', 's', 'e'] rest).2)
    | '-' :: rest => number true rest
    | '"' :: rest => do
      let (s, rest) ← string rest
      return (str s, rest)
    | '[' :: rest => do
      let (xs, rest) ← list rest
      return (arr xs, rest)
    | '\x7b' :: rest => do
      let (ms, rest) ← object rest
      return (ofRecord (Record.ofList ms), rest)
    | c :: rest => if c.isDigit then number false (c :: rest) else .error .expectedValue

/-- A value with at most so many levels of arrays and objects. -/
def value : Nat → Reader Json
  | 0 => valueOf (fun _ => .error .tooDeep) (fun _ => .error .tooDeep)
  | depth + 1 => valueOf (items (value depth)) (members (value depth))

/-- Reads a whole text. -/
def readAll {α : Type} (r : Reader α) (s : String) : Except Fault α := do
  let (x, rest) ← r s.toList
  finish rest
  return x

def parse (s : String) : Except Fault Json := readAll (value depthLimit) s

/-! ## Values that are passed over -/

def skipDigits (cs : List Char) : List Char := cs.dropWhile Char.isDigit

def skipExponent (cs : List Char) : Except Fault (List Char) :=
  let cs := match cs with
    | '+' :: r | '-' :: r => r
    | r => r
  match cs with
  | c :: rest => if c.isDigit then .ok (skipDigits rest) else .error .badNumber
  | [] => .error .badNumber

/-- What may follow the whole digits of a number. -/
def skipAfterWhole : List Char → Except Fault (List Char)
  | '.' :: c :: rest =>
    if c.isDigit then
      match skipDigits rest with
      | 'e' :: rest | 'E' :: rest => skipExponent rest
      | rest => .ok rest
    else .error .badNumber
  | ['.'] => .error .badNumber
  | 'e' :: rest | 'E' :: rest => skipExponent rest
  | rest => .ok rest

/-- A number after its sign. -/
def skipNumber : List Char → Except Fault (List Char)
  | '0' :: c :: rest => if c.isDigit then .error .badNumber else skipAfterWhole (c :: rest)
  | c :: rest => if c.isDigit then skipAfterWhole (skipDigits rest) else .error .badNumber
  | [] => .error .badNumber

/-- A string after its opening quote, whose escapes may name any code. -/
def skipString : Nat → List Char → Except Fault (List Char)
  | 0, _ => .error .endInString
  | _ + 1, [] => .error .endInString
  | _ + 1, '"' :: rest => .ok rest
  | _ + 1, '\\' :: [] => .error .endInString
  | n + 1, '\\' :: 'u' :: rest => do skipString n (← hexQuad rest).2
  | n + 1, '\\' :: c :: rest =>
    if ['"', '\\', '/', 'b', 'f', 'n', 'r', 't'].contains c then skipString n rest
    else .error .badEscape
  | n + 1, c :: rest => if c.toNat < 32 then .error .controlCharacter else skipString n rest

/-- The items of a list, from its bracket or from behind an item. -/
def skipItems (item : List Char → Except Fault (List Char)) :
    Nat → Bool → List Char → Except Fault (List Char)
  | 0, _, _ => .error .endInList
  | n + 1, first, cs =>
    match skipSpace cs with
    | [] => .error .endInList
    | ']' :: rest => .ok rest
    | c :: rest =>
      if first then do skipItems item n false (← item (c :: rest))
      else if c = ',' then do skipItems item n false (← item rest)
      else .error .expectedCommaOrBracket

/-- A member of an object, with its key. -/
def skipMember (item : List Char → Except Fault (List Char)) (cs : List Char) :
    Except Fault (List Char) :=
  match skipSpace cs with
  | [] => .error .endInObject
  | '"' :: rest => do
    let rest ← skipString (rest.length + 1) rest
    item (← colon rest)
  | _ => .error .keyNotString

def skipMembers (item : List Char → Except Fault (List Char)) :
    Nat → Bool → List Char → Except Fault (List Char)
  | 0, _, _ => .error .endInObject
  | n + 1, first, cs =>
    match skipSpace cs with
    | [] => .error .endInObject
    | '\x7d' :: rest => .ok rest
    | c :: rest =>
      if first then do skipMembers item n false (← skipMember item (c :: rest))
      else if c = ',' then do skipMembers item n false (← skipMember item rest)
      else .error .expectedCommaOrBrace

/-- Passes over one value with at most so many levels. -/
def skipValue : Nat → List Char → Except Fault (List Char)
  | 0, _ => .error .tooDeep
  | depth + 1, cs =>
    match skipSpace cs with
    | [] => .error .endInValue
    | 'n' :: rest => (word ['u', 'l', 'l'] rest).map (·.2)
    | 't' :: rest => (word ['r', 'u', 'e'] rest).map (·.2)
    | 'f' :: rest => (word ['a', 'l', 's', 'e'] rest).map (·.2)
    | '-' :: rest => skipNumber rest
    | '"' :: rest => skipString (rest.length + 1) rest
    | '[' :: rest => skipItems (skipValue depth) (rest.length + 1) true rest
    | '\x7b' :: rest => skipMembers (skipValue depth) (rest.length + 1) true rest
    | c :: rest => if c.isDigit then skipNumber (c :: rest) else .error .expectedValue

/-- Passes over one value of any depth: a level takes a character of the text. -/
def skip (cs : List Char) : Except Fault (List Char) := skipValue (cs.length + 1) cs

end Backlog.Json
