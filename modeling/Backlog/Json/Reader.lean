import Backlog.Json.Fault

/-!
# Reading the parts of a JSON text

A reader takes what it reads from the front of a text and returns the rest, or the first fault.

**Numbers** are read as a significand of 64 bits and a power of ten: whole digits that no longer
fit count in the exponent only, later digits of the fraction not at all. The value is then one
multiplication or division by a power of ten.
-/

namespace Backlog.Json

abbrev Reader (α : Type) := List Char → Except Fault (α × List Char)

/-! ## Blanks and words -/

def isSpace (c : Char) : Bool := c = ' ' || c = '\n' || c = '\t' || c = '\r'

def skipSpace (cs : List Char) : List Char := cs.dropWhile isSpace

/-- The letters of a word after its first. -/
def word : List Char → Reader Unit
  | [], cs => .ok ((), cs)
  | _ :: _, [] => .error .endInValue
  | w :: ws, c :: cs => if c = w then word ws cs else .error .expectedIdent

/-- The end of the text, blanks aside. -/
def finish (cs : List Char) : Except Fault Unit :=
  if (skipSpace cs).isEmpty then .ok () else .error .trailingCharacters

/-! ## Strings -/

def hexValue? (c : Char) : Option Nat :=
  if c.isDigit then some (c.toNat - 48)
  else if 'a' ≤ c ∧ c ≤ 'f' then some (c.toNat - 87)
  else if 'A' ≤ c ∧ c ≤ 'F' then some (c.toNat - 55)
  else none

def hexValues? (cs : List Char) : Option Nat :=
  cs.foldlM (fun n c => (hexValue? c).map (16 * n + ·)) 0

/-- The four digits of an escape; a text with fewer than four bytes left has ended. -/
def hexQuad (cs : List Char) : Except Fault (Nat × List Char) :=
  match cs with
  | a :: b :: c :: d :: rest =>
    match hexValues? [a, b, c, d] with
    | some n => .ok (n, rest)
    | none => .error .badEscape
  | few =>
    if (String.ofList few).utf8ByteSize < 4 then .error .endInString else .error .badEscape

/-- The second half of a character beyond the first plane. -/
def lowHalf (high : Nat) : List Char → Except Fault (Char × List Char)
  | [] => .error .endInString
  | '\\' :: [] => .error .endInString
  | '\\' :: 'u' :: rest => do
    let (low, rest) ← hexQuad rest
    if 0xDC00 ≤ low ∧ low ≤ 0xDFFF then
      return (Char.ofNat (0x10000 + (high - 0xD800) * 1024 + (low - 0xDC00)), rest)
    else .error .loneSurrogate
  | _ => .error .hexEscapeEnd

/-- One escape, after its backslash. -/
def escape : List Char → Except Fault (Char × List Char)
  | [] => .error .endInString
  | 'u' :: rest => do
    let (n, rest) ← hexQuad rest
    if 0xDC00 ≤ n ∧ n ≤ 0xDFFF then .error .loneSurrogate
    else if 0xD800 ≤ n ∧ n ≤ 0xDBFF then lowHalf n rest
    else return (Char.ofNat n, rest)
  | c :: rest =>
    match c with
    | '"' | '\\' | '/' => .ok (c, rest)
    | 'b' => .ok (Char.ofNat 8, rest)
    | 'f' => .ok (Char.ofNat 12, rest)
    | 'n' => .ok ('\n', rest)
    | 'r' => .ok ('\r', rest)
    | 't' => .ok ('\t', rest)
    | _ => .error .badEscape

/-- The characters of a string up to its closing quote. Each takes at least one character of the
text, so the length of the text is bound enough. -/
def stringBody : Nat → List Char → Except Fault (List Char × List Char)
  | 0, _ => .error .endInString
  | _ + 1, [] => .error .endInString
  | _ + 1, '"' :: rest => .ok ([], rest)
  | n + 1, '\\' :: rest => do
    let (c, rest) ← escape rest
    let (cs, rest) ← stringBody n rest
    return (c :: cs, rest)
  | n + 1, c :: rest =>
    if c.toNat < 32 then .error .controlCharacter
    else do
      let (cs, rest) ← stringBody n rest
      return (c :: cs, rest)

/-- A string after its opening quote. -/
def string : Reader String := fun cs => do
  let (body, rest) ← stringBody (cs.length + 1) cs
  return (String.ofList body, rest)

/-! ## Numbers -/

/-- Whether one more digit still fits 64 bits. -/
def fits (significand digit : Nat) : Bool := significand * 10 + digit < 18446744073709551616

/-- A row of whole digits: those that fit, the count of the others, and the rest. -/
def wholeDigits (significand dropped : Nat) : List Char → Nat × Nat × List Char
  | [] => (significand, dropped, [])
  | c :: cs =>
    if c.isDigit then
      let digit := Decimal.digitValue c
      if dropped = 0 && fits significand digit then
        wholeDigits (significand * 10 + digit) 0 cs
      else wholeDigits significand (dropped + 1) cs
    else (significand, dropped, c :: cs)

/-- The digits after the point: those that fit, their count, and the rest. -/
def fractionDigits (significand taken : Nat) : List Char → Nat × Nat × List Char
  | [] => (significand, taken, [])
  | c :: cs =>
    if c.isDigit then
      let digit := Decimal.digitValue c
      if fits significand digit then fractionDigits (significand * 10 + digit) (taken + 1) cs
      else (significand, taken, cs.dropWhile Char.isDigit)
    else (significand, taken, c :: cs)

/-- Divides by the greatest power of the table so many times, or until the number is zero. -/
def lowered : Nat → Binary64 → Option Binary64
  | 0, x => some x
  | n + 1, x => if x.isZero then some x else (Binary64.tenPower? 308).bind x.div? >>= lowered n

/-- A significand times a power of ten. The table of powers ends at 308: a number with a lower
exponent is first divided by the last of them, a greater exponent is out of range. -/
def scaled? (x : Binary64) (exponent : Int) : Option Binary64 :=
  if x.isZero then some x
  else if exponent < 0 then
    let steps := ((-exponent).toNat - 1) / 308
    let last := (-exponent).toNat - 308 * steps
    lowered steps x >>= fun y => (Binary64.tenPower? last).bind y.div?
  else if exponent ≤ 308 then (Binary64.tenPower? exponent.toNat).bind x.mul?
  else none

def floatOf (negative : Bool) (significand : Nat) (exponent : Int) : Except Fault Json :=
  match (Binary64.ofNat? significand).bind (scaled? · exponent) with
  | some x => .ok (.float (if negative then x.neg else x))
  | none => .error .numberOutOfRange

/-- The digits of an exponent, as long as they fit 32 bits. -/
def exponentDigits (exponent : Nat) : List Char → Option Nat × List Char
  | [] => (some exponent, [])
  | c :: cs =>
    if c.isDigit then
      let next := exponent * 10 + Decimal.digitValue c
      if next < 2147483648 then exponentDigits next cs else (none, cs.dropWhile Char.isDigit)
    else (some exponent, c :: cs)

/-- An exponent is kept within 32 bits. -/
def saturate (n : Int) : Int := max (-2147483648) (min 2147483647 n)

/-- An exponent, after its letter. -/
def exponentPart (negative : Bool) (significand : Nat) (start : Int) : Reader Json := fun cs => do
  let (down, cs) := match cs with
    | '+' :: r => (false, r)
    | '-' :: r => (true, r)
    | r => (false, r)
  match cs with
  | [] => .error .endInValue
  | c :: rest =>
    if !c.isDigit then .error .badNumber
    else
      match exponentDigits (Decimal.digitValue c) rest with
      | (some e, rest) =>
        let exponent := saturate (if down then start - e else start + e)
        return (← floatOf negative significand exponent, rest)
      | (none, rest) =>
        if significand ≠ 0 && !down then .error .numberOutOfRange
        else return (.float (.zero negative), rest)

/-- An integer literal that no longer is one: its digits and what follows them. -/
def afterWhole (negative : Bool) (significand dropped : Nat) : Reader Json := fun cs =>
  match cs with
  | '.' :: rest =>
    match fractionDigits significand 0 rest with
    | (m, taken, after) =>
      if after.length = rest.length then
        if rest.isEmpty then .error .endInValue else .error .badNumber
      else
        let exponent : Int := (dropped : Int) - taken
        match after with
        | 'e' :: after | 'E' :: after => exponentPart negative m exponent after
        | after => do return (← floatOf negative m exponent, after)
  | 'e' :: rest | 'E' :: rest => exponentPart negative significand dropped rest
  | rest =>
    if dropped ≠ 0 then do return (← floatOf negative significand dropped, rest)
    else if !negative then .ok (.int significand, rest)
    else if significand = 0 ∨ 9223372036854775808 < significand then do
      return (← floatOf true significand 0, rest)
    else .ok (.int (-significand), rest)

/-- A number after its sign. -/
def number (negative : Bool) : Reader Json
  | [] => .error .endInValue
  | '0' :: c :: cs =>
    if c.isDigit then .error .badNumber else afterWhole negative 0 0 (c :: cs)
  | c :: cs =>
    if c.isDigit then
      match wholeDigits 0 0 (c :: cs) with
      | (significand, dropped, rest) => afterWhole negative significand dropped rest
    else .error .badNumber

/-! ## Between items and members -/

/-- Whether a list goes on, and where its next item starts. -/
def nextItem (first : Bool) (cs : List Char) : Except Fault (Bool × List Char) :=
  match skipSpace cs with
  | [] => .error .endInList
  | ']' :: rest => .ok (false, ']' :: rest)
  | c :: rest =>
    if first then .ok (true, c :: rest)
    else if c = ',' then
      match skipSpace rest with
      | [] => .error .endInValue
      | ']' :: _ => .error .trailingComma
      | rest => .ok (true, rest)
    else .error .expectedCommaOrBracket

/-- The end of a list of which no more is read. -/
def closeList (cs : List Char) : Except Fault (List Char) :=
  match skipSpace cs with
  | [] => .error .endInList
  | ']' :: rest => .ok rest
  | ',' :: rest =>
    match skipSpace rest with
    | ']' :: _ => .error .trailingComma
    | _ => .error .trailingCharacters
  | _ => .error .trailingCharacters

/-- Whether an object goes on, and where its next key starts, its quote taken. -/
def nextKey (first : Bool) (cs : List Char) : Except Fault (Bool × List Char) :=
  match skipSpace cs with
  | [] => .error .endInObject
  | '\x7d' :: rest => .ok (false, '\x7d' :: rest)
  | c :: rest =>
    if first then
      if c = '"' then .ok (true, rest) else .error .keyNotString
    else if c = ',' then
      match skipSpace rest with
      | [] => .error .endInValue
      | '"' :: rest => .ok (true, rest)
      | '\x7d' :: _ => .error .trailingComma
      | _ => .error .keyNotString
    else .error .expectedCommaOrBrace

/-- The end of an object. -/
def closeObject (cs : List Char) : Except Fault (List Char) :=
  match skipSpace cs with
  | [] => .error .endInObject
  | '\x7d' :: rest => .ok rest
  | ',' :: _ => .error .trailingComma
  | _ => .error .trailingCharacters

def colon (cs : List Char) : Except Fault (List Char) :=
  match skipSpace cs with
  | [] => .error .endInObject
  | ':' :: rest => .ok rest
  | _ => .error .expectedColon

/-! ## Lists and objects of one kind of item -/

/-- The items of a list from a place between two of them. Each takes at least one character, so
the length of the text is bound enough. -/
def itemsFrom {α : Type} (item : Reader α) : Nat → Bool → Reader (List α)
  | 0, _, _ => .error .endInList
  | n + 1, first, cs => do
    let (more, rest) ← nextItem first cs
    if more then
      let (x, rest) ← item rest
      let (xs, rest) ← itemsFrom item n false rest
      return (x :: xs, rest)
    else return ([], ← closeList rest)

/-- A list after its bracket. -/
def items {α : Type} (item : Reader α) : Reader (List α) := fun cs =>
  itemsFrom item (cs.length + 1) true cs

/-- The members of an object from a place between two of them. -/
def membersFrom {α : Type} (value : Reader α) : Nat → Bool → Reader (List (String × α))
  | 0, _, _ => .error .endInObject
  | n + 1, first, cs => do
    let (more, rest) ← nextKey first cs
    if more then
      let (key, rest) ← string rest
      let (x, rest) ← value (← colon rest)
      let (xs, rest) ← membersFrom value n false rest
      return ((key, x) :: xs, rest)
    else return ([], ← closeObject rest)

/-- An object after its brace. -/
def members {α : Type} (value : Reader α) : Reader (List (String × α)) := fun cs =>
  membersFrom value (cs.length + 1) true cs

end Backlog.Json
