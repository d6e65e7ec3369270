import Backlog.Calendar.Date
import Backlog.Json.Reader
import Backlog.Toml.Basic

/-!
# Reading configuration documents

A document is a row of lines: headers of tables, and keys with values. Reading says only whether
a document is well formed, and what it holds.
-/

namespace Backlog.Toml

abbrev Step (α : Type) := List Char → Option (α × List Char)

/-! ## Blanks, comments and line ends -/

def isBlank (c : Char) : Bool := c = ' ' || c = '\t'

def skipBlanks (cs : List Char) : List Char := cs.dropWhile isBlank

/-- A character that comments and texts may hold. -/
def isPlain (c : Char) : Bool := c = '\t' || (0x20 ≤ c.toNat && c.toNat ≠ 0x7f)

def newLine? : List Char → Option (List Char)
  | '\n' :: rest => some rest
  | '\r' :: '\n' :: rest => some rest
  | _ => none

/-- Passes over a comment, if one starts here. -/
def skipComment (cs : List Char) : List Char :=
  match cs with
  | '#' :: rest => rest.dropWhile isPlain
  | cs => cs

/-- The end of a line: a comment perhaps, and a line end or the end of the text. -/
def endOfLine (cs : List Char) : Option (List Char) :=
  match skipComment (skipBlanks cs) with
  | [] => some []
  | rest => newLine? rest

/-- Passes over blanks, comments and line ends. -/
def skipLines : Nat → List Char → List Char
  | 0, cs => cs
  | n + 1, cs =>
    let rest := skipComment (skipBlanks cs)
    match newLine? rest with
    | some rest => skipLines n rest
    | none => rest

/-! ## Texts -/

/-- A code point of so many hexadecimal digits. -/
def unicode (width : Nat) : Step Char := fun cs => do
  let digits := cs.take width
  if digits.length ≠ width then none
  let n ← Json.hexValues? digits
  if n.isValidChar then some (Char.ofNat n, cs.drop width) else none

def escape : Step Char
  | 'b' :: rest => some (Char.ofNat 8, rest)
  | 't' :: rest => some ('\t', rest)
  | 'n' :: rest => some ('\n', rest)
  | 'f' :: rest => some (Char.ofNat 12, rest)
  | 'r' :: rest => some ('\r', rest)
  | '"' :: rest => some ('"', rest)
  | '\\' :: rest => some ('\\', rest)
  | 'u' :: rest => unicode 4 rest
  | 'U' :: rest => unicode 8 rest
  | _ => none

/-- A text on one line after its quote; `escapes` tells whether it has any. -/
def lineText (quote : Char) (escapes : Bool) : Nat → Step (List Char)
  | 0, _ => none
  | _ + 1, [] => none
  | n + 1, c :: rest =>
    if c = quote then some ([], rest)
    else if escapes ∧ c = '\\' then do
      let (d, rest) ← escape rest
      let (cs, rest) ← lineText quote escapes n rest
      return (d :: cs, rest)
    else if isPlain c then do
      let (cs, rest) ← lineText quote escapes n rest
      return (c :: cs, rest)
    else none

/-- A backslash at the end of a line joins it with the next text. -/
def joinLines? (cs : List Char) : Option (List Char) := do
  let rest ← newLine? (skipBlanks cs)
  return rest.dropWhile fun c => isBlank c || c = '\n' || c = '\r'

/-- A text over several lines after its three quotes. -/
def blockText (quote : Char) (escapes : Bool) : Nat → Step (List Char)
  | 0, _ => none
  | _ + 1, [] => none
  | n + 1, c :: rest =>
    let quotes := ((c :: rest).takeWhile (· = quote)).length
    if 3 ≤ quotes then
      if quotes ≤ 5 then
        some (List.replicate (quotes - 3) quote, (c :: rest).drop quotes)
      else none
    else if escapes ∧ c = '\\' then
      match joinLines? rest with
      | some rest => blockText quote escapes n rest
      | none => do
        let (d, rest) ← escape rest
        let (cs, rest) ← blockText quote escapes n rest
        return (d :: cs, rest)
    else
      match newLine? (c :: rest) with
      | some rest => do
        let (cs, rest) ← blockText quote escapes n rest
        return ('\n' :: cs, rest)
      | none =>
        if isPlain c then do
          let (cs, rest) ← blockText quote escapes n rest
          return (c :: cs, rest)
        else none

/-- A text of any of the four forms. -/
def text (cs : List Char) : Option (String × List Char) := do
  let block (quote : Char) (escapes : Bool) (rest : List Char) : Option (String × List Char) := do
    let rest := (newLine? rest).getD rest
    let (s, rest) ← blockText quote escapes (rest.length + 1) rest
    return (String.ofList s, rest)
  let line (quote : Char) (escapes : Bool) (rest : List Char) : Option (String × List Char) := do
    let (s, rest) ← lineText quote escapes (rest.length + 1) rest
    return (String.ofList s, rest)
  match cs with
  | '"' :: '"' :: '"' :: rest => block '"' true rest
  | '\x27' :: '\x27' :: '\x27' :: rest => block '\x27' false rest
  | '"' :: rest => line '"' true rest
  | '\x27' :: rest => line '\x27' false rest
  | _ => none

/-! ## Keys -/

def isBare (c : Char) : Bool := c.isAlphanum || c = '_' || c = '-'

def simpleKey (cs : List Char) : Option (String × List Char) :=
  match cs with
  | '"' :: rest => do
    let (s, rest) ← lineText '"' true (rest.length + 1) rest
    return (String.ofList s, rest)
  | '\x27' :: rest => do
    let (s, rest) ← lineText '\x27' false (rest.length + 1) rest
    return (String.ofList s, rest)
  | cs =>
    let name := cs.takeWhile isBare
    if name.isEmpty then none else some (String.ofList name, cs.drop name.length)

/-- Keys joined by dots. -/
def keyPath : Nat → Step (List String)
  | 0, _ => none
  | n + 1, cs => do
    let (k, rest) ← simpleKey (skipBlanks cs)
    match skipBlanks rest with
    | '.' :: rest => do
      let (ks, rest) ← keyPath n rest
      return (k :: ks, rest)
    | rest => return ([k], rest)

/-! ## Numbers and dates -/

/-- Digits with single underscores between them; returns the digits. -/
def digitRun? (isDigit : Char → Bool) : List Char → Option (List Char)
  | [] => none
  | [c] => if isDigit c then some [c] else none
  | c :: '_' :: rest => if isDigit c then (digitRun? isDigit rest).map (c :: ·) else none
  | c :: rest => if isDigit c then (digitRun? isDigit rest).map (c :: ·) else none

def inBase? (base : Nat) (cs : List Char) : Option Int := do
  let digits ← digitRun? (fun c => (Json.hexValue? c).any (· < base)) cs
  let n ← digits.foldlM (fun n c => (Json.hexValue? c).map (n * base + ·)) 0
  if n < 9223372036854775808 then some (n : Int) else none

/-- Takes a sign away. -/
def unsigned (cs : List Char) : Bool × List Char :=
  match cs with
  | '-' :: rest => (true, rest)
  | '+' :: rest => (false, rest)
  | cs => (false, cs)

/-- A decimal integer without needless zeros before it. -/
def wholeNumber? (cs : List Char) : Option Nat := do
  let digits ← digitRun? Char.isDigit cs
  if 1 < digits.length ∧ digits.head? = some '0' then none
  else some (Decimal.ofDigits digits)

def integer? (cs : List Char) : Option Int :=
  match cs with
  | '0' :: 'x' :: rest => inBase? 16 rest
  | '0' :: 'o' :: rest => inBase? 8 rest
  | '0' :: 'b' :: rest => inBase? 2 rest
  | cs => do
    let (negative, digits) := unsigned cs
    let n ← wholeNumber? digits
    let n : Int := if negative then -(n : Int) else n
    if Decimal.IsInt64 n then some n else none

def isExponent (cs : List Char) : Bool := (digitRun? Char.isDigit (unsigned cs).2).isSome

def isFloat (cs : List Char) : Bool :=
  let body := (unsigned cs).2
  if body = ['i', 'n', 'f'] ∨ body = ['n', 'a', 'n'] then true
  else
    let whole := body.takeWhile fun c => c.isDigit || c = '_'
    (wholeNumber? whole).isSome &&
      match body.drop whole.length with
      | '.' :: rest =>
        let part := rest.takeWhile fun c => c.isDigit || c = '_'
        (digitRun? Char.isDigit part).isSome &&
          match rest.drop part.length with
          | [] => true
          | e :: rest => (e = 'e' || e = 'E') && isExponent rest
      | e :: rest => (e = 'e' || e = 'E') && isExponent rest
      | [] => false

def isNumberOf (width : Nat) (least most : Nat) (cs : List Char) : Bool :=
  cs.length = width && cs.all Char.isDigit && least ≤ Decimal.ofDigits cs &&
    Decimal.ofDigits cs ≤ most

def isDate (cs : List Char) : Bool :=
  cs.length = 10 && cs[4]? = some '-' && cs[7]? = some '-' && isNumberOf 4 0 9999 (cs.take 4) &&
    isNumberOf 2 1 12 ((cs.drop 5).take 2) && isNumberOf 2 1 31 (cs.drop 8) &&
    decide (Decimal.ofDigits (cs.drop 8) ≤
      Date.monthLength (Decimal.ofDigits (cs.take 4)) (Decimal.ofDigits ((cs.drop 5).take 2)))

/-- A time of day; returns what follows it. -/
def afterTime? (cs : List Char) : Option (List Char) :=
  if cs[2]? = some ':' && cs[5]? = some ':' && isNumberOf 2 0 23 (cs.take 2) &&
      isNumberOf 2 0 59 ((cs.drop 3).take 2) && isNumberOf 2 0 60 ((cs.drop 6).take 2) then
    match cs.drop 8 with
    | '.' :: rest =>
      if (rest.takeWhile Char.isDigit).isEmpty then none else some (rest.dropWhile Char.isDigit)
    | rest => some rest
  else none

def isOffset (cs : List Char) : Bool :=
  match cs with
  | [] => true
  | [z] => z = 'Z' || z = 'z'
  | s :: rest =>
    (s = '+' || s = '-') && rest.length = 5 && rest[2]? = some ':' &&
      isNumberOf 2 0 23 (rest.take 2) && isNumberOf 2 0 59 (rest.drop 3)

def isTimestamp (cs : List Char) : Bool :=
  if isDate (cs.take 10) then
    match cs.drop 10 with
    | [] => true
    | t :: rest => (t = 'T' || t = 't' || t = ' ') && (afterTime? rest).any isOffset
  else (afterTime? cs).any List.isEmpty

/-- The characters of a number or a date; a blank may stand between a date and its time. -/
def token (cs : List Char) : List Char :=
  let isPart (c : Char) : Bool := isBare c || c = '+' || c = '.' || c = ':'
  let front := cs.takeWhile isPart
  match cs.drop front.length with
  | ' ' :: a :: b :: ':' :: rest =>
    if isDate front && a.isDigit && b.isDigit then
      front ++ ' ' :: a :: b :: ':' :: rest.takeWhile isPart
    else front
  | _ => front

def scalar : Step Toml := fun cs =>
  let t := token cs
  let rest := cs.drop t.length
  match integer? t with
  | some n => some (.int n, rest)
  | none =>
    if t = ['t', 'r', 'u', 'e'] ∨ t = ['f', 'a', 'l', 's', 'e'] ∨ isFloat t then
      some (.other, rest)
    else if isTimestamp t then some (.date, rest)
    else none

/-! ## Values -/

/-- The items of a list after its bracket or a comma. -/
def items (value : Step Toml) : Nat → Step (List Toml)
  | 0, _ => none
  | n + 1, cs =>
    match skipLines (cs.length + 1) cs with
    | ']' :: rest => some ([], rest)
    | cs => do
      let (x, rest) ← value cs
      match skipLines (rest.length + 1) rest with
      | ',' :: rest => do
        let (xs, rest) ← items value n rest
        return (x :: xs, rest)
      | ']' :: rest => some ([x], rest)
      | _ => none

/-- The members of a table that is written on one line. -/
def inlineMembers (value : Step Toml) : Nat → Toml → Step Toml
  | 0, _, _ => none
  | n + 1, t, cs => do
    let (path, rest) ← keyPath (cs.length + 1) cs
    match rest with
    | '=' :: rest => do
      let (x, rest) ← value (skipBlanks rest)
      let t ← putAt path x t
      match skipBlanks rest with
      | ',' :: rest => inlineMembers value n t rest
      | '\x7d' :: rest => some (close t, rest)
      | _ => none
    | _ => none

/-- A value with at most so many levels of lists and tables. -/
def value : Nat → Step Toml
  | 0, _ => none
  | depth + 1, cs =>
    match cs with
    | '"' :: _ | '\x27' :: _ => (text cs).map fun (s, rest) => (.str s, rest)
    | '[' :: rest => do
      let (xs, rest) ← items (value depth) (rest.length + 1) rest
      return (.arr xs, rest)
    | '\x7b' :: rest =>
      match skipBlanks rest with
      | '\x7d' :: rest => some (close empty, rest)
      | rest => inlineMembers (value depth) (rest.length + 1) empty rest
    | cs => scalar cs

/-! ## Documents -/

/-- How deep values may nest. -/
def depthLimit : Nat := 80

/-- The header of a table, after its first bracket. -/
def header (t : Toml) (cs : List Char) : Option (List String × Toml × List Char) :=
  match cs with
  | '[' :: rest => do
    let (path, rest) ← keyPath (rest.length + 1) rest
    match rest with
    | ']' :: ']' :: rest => return (path, ← openRow path t, ← endOfLine rest)
    | _ => none
  | rest => do
    let (path, rest) ← keyPath (rest.length + 1) rest
    match rest with
    | ']' :: rest => return (path, ← openTable path t, ← endOfLine rest)
    | _ => none

/-- The lines of a document. `opened` is the table that the last header named. -/
def lines : Nat → List String → Toml → List Char → Option Toml
  | 0, _, _, _ => none
  | n + 1, opened, t, cs =>
    match skipLines (cs.length + 1) cs with
    | [] => some t
    | '[' :: rest => do
      let (path, t, rest) ← header t rest
      lines n path t rest
    | cs => do
      let (path, rest) ← keyPath (cs.length + 1) cs
      match rest with
      | '=' :: rest => do
        let (x, rest) ← value depthLimit (skipBlanks rest)
        let t ← editOpened opened (putAt path x) t
        lines n opened t (← endOfLine rest)
      | _ => none

/-- Reads a document, if it is well formed. -/
def parse (s : String) : Option Toml :=
  let cs := match s.toList with
    | '\ufeff' :: rest => rest
    | cs => cs
  lines (cs.length + 1) [] empty cs

end Backlog.Toml
