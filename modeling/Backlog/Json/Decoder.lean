import Backlog.Json.Parser

/-!
# Decoding data from JSON

A decoder reads one type of data in two ways: from a text, where the first fault along the text
counts, and from a value that has been read already.

**Records of named members** (`Layout`) are given as an object or as a list of the members in
their order. **Choices** are given by name, or as an object of the name with `null`.
-/

namespace Backlog.Json

/-- Reading from a text takes the number of levels that may still open. -/
structure Decoder (α : Type) where
  fromText : Nat → Reader α
  fromJson : Json → Except Fault α

namespace Decoder

variable {α β : Type}

/-! ## Scalars -/

/-- Another type of value stands here: reads enough of it to name it. -/
def mismatch (expected : String) : Reader α := fun cs =>
  let named (r : Except Fault (Json × List Char)) : Except Fault (α × List Char) := do
    let (v, _) ← r
    .error (.invalidType v.found expected)
  match skipSpace cs with
  | [] => .error .endInValue
  | 'n' :: rest => named do return (null, (← word ['u', 'l', 'l'] rest).2)
  | 't' :: rest => named do return (bool true, (← word ['r', 'u', 'e'] rest).2)
  | 'f' :: rest => named do return (bool false, (← word ['a', 'l', 's', 'e'] rest).2)
  | '-' :: rest => named (number true rest)
  | '"' :: rest => named do
    let (s, rest) ← string rest
    return (str s, rest)
  | '[' :: _ => .error (.invalidType "sequence" expected)
  | '\x7b' :: _ => .error (.invalidType "map" expected)
  | c :: rest => if c.isDigit then named (number false (c :: rest)) else .error .expectedValue

/-- A decoder of the values that a test on a scalar accepts. -/
def scalar (opens : Char → Bool) (expected : String) (read : Json → Except Fault α) : Decoder α where
  fromText _ cs :=
    match skipSpace cs with
    | [] => .error .endInValue
    | c :: rest =>
      if opens c then do
        let (v, rest) ← value 0 (c :: rest)
        return (← read v, rest)
      else mismatch expected (c :: rest)
  fromJson := read

/-- A string that a function understands. -/
def stringOf (expected : String) (read : String → Except Fault α) : Decoder α :=
  scalar (· = '"') expected fun
    | str s => read s
    | v => .error (.invalidType v.found expected)

def string : Decoder String := stringOf "a string" .ok

def boolean : Decoder Bool :=
  scalar (fun c => c = 't' || c = 'f') "a boolean" fun
    | bool b => .ok b
    | v => .error (.invalidType v.found "a boolean")

def int64 : Decoder Int :=
  scalar (fun c => c = '-' || c.isDigit) "i64" fun
    | int n =>
      if Decimal.IsInt64 n then .ok n else .error (.invalidValue (foundInt n) "i64")
    | v => .error (.invalidType v.found "i64")

/-- Only `null`, which stands for a choice that carries nothing. -/
def unit : Decoder Unit :=
  scalar (· = 'n') "unit" fun
    | null => .ok ()
    | v => .error (.invalidType v.found "unit")

/-! ## Any value, and containers -/

def any : Decoder Json := ⟨Json.value, .ok⟩

def map (f : α → β) (d : Decoder α) : Decoder β where
  fromText depth cs := do
    let (x, rest) ← d.fromText depth cs
    return (f x, rest)
  fromJson v := (d.fromJson v).map f

/-- A value that is read first and understood then. -/
def ofJson (read : Json → Except Fault α) : Decoder α where
  fromText depth cs := do
    let (v, rest) ← Json.value depth cs
    return (← read v, rest)
  fromJson := read

def optional (d : Decoder α) : Decoder (Option α) where
  fromText depth cs :=
    match skipSpace cs with
    | 'n' :: rest => do return (none, (← word ['u', 'l', 'l'] rest).2)
    | cs => do
      let (x, rest) ← d.fromText depth cs
      return (some x, rest)
  fromJson
    | null => .ok none
    | v => (d.fromJson v).map some

/-- What opens a container, where a level is left for it. -/
def within (depth : Nat) (inner : Nat → Reader α) : Reader α :=
  match depth with
  | 0 => fun _ => .error .tooDeep
  | depth + 1 => inner depth

def list (d : Decoder α) : Decoder (List α) where
  fromText depth cs :=
    match skipSpace cs with
    | '[' :: rest => within depth (fun depth => items (d.fromText depth)) rest
    | cs => mismatch "a sequence" cs
  fromJson
    | arr xs => xs.mapM d.fromJson
    | v => .error (.invalidType v.found "a sequence")

/-- Values of one type under names; of a name given twice the last value stays. -/
def record (d : Decoder α) : Decoder (Record α) where
  fromText depth cs :=
    match skipSpace cs with
    | '\x7b' :: rest => do
      let (ms, rest) ← within depth (fun depth => members (d.fromText depth)) rest
      return (Record.ofList ms, rest)
    | cs => mismatch "a map" cs
  fromJson
    | obj ms => do
      let ms ← (Record.ofList ms).entries.mapM fun e => do return (e.1, ← d.fromJson e.2)
      return Record.ofList ms
    | v => .error (.invalidType v.found "a map")

/-! ## Choices -/

/-- The choice of a name. -/
def choose (choices : List (String × α)) (name : String) : Except Fault α :=
  match Record.lookup name choices with
  | some x => .ok x
  | none => .error (.unknownVariant name (choices.map Prod.fst))

/-- The name of a choice as a key, up to its colon. -/
def choiceKey (choices : List (String × α)) : Reader α := fun cs =>
  match skipSpace cs with
  | '"' :: rest => do
    let (name, rest) ← Json.string rest
    let x ← choose choices name
    return (x, ← colon rest)
  | cs => mismatch "variant identifier" cs

/-- The brace behind a choice that was given as an object. -/
def closeChoice (cs : List Char) : Except Fault (List Char) :=
  match skipSpace cs with
  | [] => .error .endInObject
  | '\x7d' :: rest => .ok rest
  | _ => .error .expectedValue

/-- The one member of a value that names a choice, with what it carries. -/
def choiceOf : Json → Except Fault (String × Option Json)
  | str s => .ok (s, none)
  | obj [(name, v)] => .ok (name, some v)
  | obj _ => .error (.invalidValue "map" "map with a single key")
  | v => .error (.invalidType v.found "string or map")

/-- One of some named values. -/
def choice (choices : List (String × α)) : Decoder α where
  fromText depth cs :=
    match skipSpace cs with
    | [] => .error .endInValue
    | '"' :: rest => do
      let (name, rest) ← Json.string rest
      return (← choose choices name, rest)
    | '\x7b' :: rest =>
      within depth (fun depth cs => do
        let (x, rest) ← choiceKey choices cs
        let (_, rest) ← unit.fromText depth rest
        return (x, ← closeChoice rest)) rest
    | _ => .error .expectedValue
  fromJson v := do
    let (name, carried) ← choiceOf v
    let x ← choose choices name
    match carried with
    | none => return x
    | some v =>
      unit.fromJson v
      return x

end Decoder

/-! ## Records of named members -/

/-- A member of a record: `σ` holds what has been read so far. -/
structure Member (σ : Type) where
  name : String
  filled : σ → Bool
  decoder : Decoder (σ → σ)
  /-- A list of the members may end before this one. -/
  mayEnd : Bool

/-- How a record of named members is read. -/
structure Layout (σ α : Type) where
  /-- The kind and name of the record in messages. -/
  title : String
  members : List (Member σ)
  /-- Other members are refused. -/
  closed : Bool
  start : σ
  finish : σ → Except Fault α

namespace Layout

variable {σ α : Type} (l : Layout σ α)

def find? (name : String) : Option (Member σ) := l.members.find? (·.name = name)

def lengthText : String :=
  let n := l.members.length
  l.title ++ " with " ++ toString n ++ (if n = 1 then " element" else " elements")

def unknown (name : String) : Fault := .unknownField name (l.members.map (·.name))

/-- The members of an object from a place between two of them. -/
def fieldsFrom (depth : Nat) : Nat → Bool → σ → Reader σ
  | 0, _, _, _ => .error .endInObject
  | n + 1, first, s, cs => do
    let (more, rest) ← nextKey first cs
    if more then
      let (key, rest) ← string rest
      match l.find? key with
      | some m =>
        if m.filled s then .error (.duplicateField key)
        else
          let (put, rest) ← m.decoder.fromText depth (← colon rest)
          fieldsFrom depth n false (put s) rest
      | none =>
        if l.closed then .error (l.unknown key)
        else fieldsFrom depth n false s (← skip (← colon rest))
    else return (s, rest)

/-- The members of a list in their order. -/
def elementsFrom (depth : Nat) : List (Member σ) → Nat → Bool → σ → Reader σ
  | [], _, _, s, cs => .ok (s, cs)
  | m :: ms, i, first, s, cs => do
    let (more, rest) ← nextItem first cs
    if more then
      let (put, rest) ← m.decoder.fromText depth rest
      elementsFrom depth ms (i + 1) false (put s) rest
    else if m.mayEnd then elementsFrom depth ms (i + 1) first s rest
    else .error (.invalidLength i l.lengthText)

/-- The same for items that have been read. -/
def elementsOf : List (Member σ) → Nat → σ → List Json → Except Fault (σ × List Json)
  | [], _, s, rest => .ok (s, rest)
  | m :: ms, i, s, x :: xs => do elementsOf ms (i + 1) ((← m.decoder.fromJson x) s) xs
  | m :: ms, i, s, [] =>
    if m.mayEnd then elementsOf ms (i + 1) s [] else .error (.invalidLength i l.lengthText)

/-- The same for members that have been read. -/
def fieldsOf : List (String × Json) → σ → Except Fault σ
  | [], s => .ok s
  | (name, v) :: rest, s =>
    match l.find? name with
    | some m => do fieldsOf rest ((← m.decoder.fromJson v) s)
    | none => if l.closed then .error (l.unknown name) else fieldsOf rest s

def fromText (depth : Nat) : Reader α := fun cs =>
  match skipSpace cs with
  | '\x7b' :: rest =>
    Decoder.within depth (fun depth cs => do
      let (s, rest) ← l.fieldsFrom depth (cs.length + 1) true l.start cs
      let x ← l.finish s
      return (x, ← closeObject rest)) rest
  | '[' :: rest =>
    Decoder.within depth (fun depth cs => do
      let (s, rest) ← l.elementsFrom depth l.members 0 true l.start cs
      let x ← l.finish s
      return (x, ← closeList rest)) rest
  | cs => Decoder.mismatch l.title cs

def fromObject (ms : List (String × Json)) : Except Fault α := do
  l.finish (← l.fieldsOf (Record.ofList ms).entries l.start)

def fromJson : Json → Except Fault α
  | obj ms => l.fromObject ms
  | arr xs => do
    let (s, rest) ← l.elementsOf l.members 0 l.start xs
    let x ← l.finish s
    if rest.isEmpty then return x
    else .error (.invalidLength xs.length "fewer elements in array")
  | v => .error (.invalidType v.found l.title)

def decoder : Decoder α := ⟨l.fromText, l.fromJson⟩

end Layout

/-- The content of a slot that has to be filled. -/
def need {α : Type} (name : String) : Option α → Except Fault α
  | some x => .ok x
  | none => .error (.missingField name)

/-- Decodes a whole text. -/
def Decoder.decodeText {α : Type} (d : Decoder α) (s : String) : Except Fault α :=
  readAll (d.fromText depthLimit) s

end Backlog.Json
