import Backlog.Json.Decoder

/-!
# Universally unique identifiers

An identifier is its 32 hexadecimal digits in small letters.

**Written** with hyphens after 8, 12, 16 and 20 digits. **Read** also without hyphens, in braces,
or behind `urn:uuid:`, in letters of either size.
-/

namespace Backlog

/-- An identifier by its value, a number of 128 bits. -/
structure Uuid where
  value : Nat
  bound : value < 340282366920938463463374607431768211456
deriving DecidableEq

namespace Uuid

instance : Inhabited Uuid := ⟨0, by decide⟩

/-- The identifier of version 4 that takes its other bits from 16 bytes. -/
def ofRandom (bytes : List Nat) : Option Uuid :=
  match bytes with
  | [b0, b1, b2, b3, b4, b5, b6, b7, b8, b9, b10, b11, b12, b13, b14, b15] =>
    let marked := [b0, b1, b2, b3, b4, b5, 64 + b6 % 16, b7, 128 + b8 % 64, b9, b10, b11, b12, b13,
      b14, b15]
    let value := marked.foldl (fun n b => 256 * n + b % 256) 0
    if h : value < 340282366920938463463374607431768211456 then some ⟨value, h⟩ else none
  | _ => none

/-! ## Text -/

/-- The digits of a number to base 16, as many as are asked for. -/
def hexDigits : Nat → Nat → List Char
  | 0, _ => []
  | width + 1, n => hexDigits width (n / 16) ++ [Json.hexDigit (n % 16)]

def simpleText (u : Uuid) : String := String.ofList (hexDigits 32 u.value)

/-- Puts hyphens between the groups of digits. -/
def hyphenated (digits : List Char) : List Char :=
  digits.take 8 ++ '-' :: (digits.drop 8).take 4 ++ '-' :: (digits.drop 12).take 4 ++
    '-' :: (digits.drop 16).take 4 ++ '-' :: digits.drop 20

def text (u : Uuid) : String := String.ofList (hyphenated (hexDigits 32 u.value))

/-! ## Reading -/

inductive ReadFault
  | length (n : Nat)
  | character (c : Char) (index : Nat)
  | groupCount (n : Nat)
  | groupLength (group expected length : Nat)

def ReadFault.message : ReadFault → String
  | length n => "invalid length: found " ++ toString n
  | character c i =>
    "invalid character: found " ++ Json.ticked (String.ofList [c]) ++ " at " ++ toString i
  | groupCount n => "invalid group count: expected 5, found " ++ toString n
  | groupLength g e n =>
    "invalid group length in group " ++ toString g ++ ": expected " ++ toString e ++ ", found " ++
      toString n

/-- The number that 32 digits write. -/
def ofHex? (digits : List Char) : Option Uuid :=
  if digits.length = 32 then
    (Json.hexValues? digits).bind fun n => if h : n < 340282366920938463463374607431768211456 then some ⟨n, h⟩ else none
  else none

/-- The hyphens of the hyphenated form stand where they have to. -/
def unhyphen? (cs : List Char) : Option (List Char) :=
  let digits := cs.filter (· ≠ '-')
  if cs.length = 36 ∧ hyphenated digits = cs then some digits else none

/-- The digits of a text in one of the four forms. -/
def digits? (s : String) : Option (List Char) :=
  let cs := s.toList
  if cs.length = 32 then some cs
  else if cs.length = 36 then unhyphen? cs
  else if cs.length = 38 ∧ cs.head? = some '\x7b' ∧ cs.getLast? = some '\x7d' then
    unhyphen? ((cs.drop 1).take 36)
  else if cs.length = 45 ∧ (cs.take 9).map Char.toLower = "urn:uuid:".toList then unhyphen? (cs.drop 9)
  else none

/-- The first character that is neither a digit nor a hyphen, and its place in bytes. -/
def strangeFrom (index : Nat) : List Char → Option (Char × Nat)
  | [] => none
  | c :: rest =>
    if c = '-' ∨ (Json.hexValue? c).isSome then strangeFrom (index + c.utf8Size) rest
    else some (c, index)

/-- The lengths of the groups between the hyphens. -/
def groupLengths (cs : List Char) : List Nat := (cs.splitOn '-').map List.length

/-- Why a text is no identifier. -/
def explain (s : String) : ReadFault :=
  let size := s.utf8ByteSize
  if size = 0 ∨ 45 < size then .length size
  else
    let cs := s.toList
    let (inner, start, plain) :=
      if cs.head? = some '\x7b' ∧ cs.getLast? = some '\x7d' then
        ((cs.drop 1).dropLast, 1, false)
      else if (cs.take 9).map Char.toLower = "urn:uuid:".toList then (cs.drop 9, 9, false)
      else (cs, 0, true)
    match strangeFrom start inner with
    | some (c, i) => .character c i
    | none =>
      let hyphens := inner.count '-'
      if hyphens = 0 ∧ plain then .length size
      else if hyphens ≠ 4 then .groupCount (hyphens + 1)
      else
        let expected := [8, 4, 4, 4]
        let wrong := (expected.zip (groupLengths inner)).zipIdx.find? fun e => e.1.1 ≠ e.1.2
        match wrong with
        | some ((e, n), i) => .groupLength i e n
        | none => .groupLength 4 12 (size - 24)

def read (s : String) : Except ReadFault Uuid :=
  match (digits? s).bind ofHex? with
  | some u => .ok u
  | none => .error (explain s)

def decoder : Json.Decoder Uuid :=
  Json.Decoder.stringOf "a UUID string" fun s =>
    (read s).mapError fun f => .custom ("UUID parsing failed: " ++ f.message)

end Uuid

end Backlog
