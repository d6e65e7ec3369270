import Backlog.Json.Basic

/-!
# JSON text

**Compact text** has no blanks. **Indented text** puts each item and member on a line of its own,
two spaces deeper than what holds it. Escaped in strings are the quote, the backslash and the
control characters below the space, and nothing else.
-/

namespace Backlog.Json

/-! ## Strings -/

/-- A hexadecimal digit, small letters above nine. -/
def hexDigit (n : Nat) : Char := if n < 10 then Char.ofNat (48 + n) else Char.ofNat (87 + n)

def escapedChar (c : Char) : List Char :=
  if c = '"' then ['\\', '"']
  else if c = '\\' then ['\\', '\\']
  else if c.toNat = 8 then ['\\', 'b']
  else if c = '\t' then ['\\', 't']
  else if c = '\n' then ['\\', 'n']
  else if c.toNat = 12 then ['\\', 'f']
  else if c = '\r' then ['\\', 'r']
  else if c.toNat < 32 then ['\\', 'u', '0', '0', hexDigit (c.toNat / 16), hexDigit (c.toNat % 16)]
  else [c]

def stringChars (s : String) : List Char := '"' :: s.toList.flatMap escapedChar ++ ['"']

def intChars : Int → List Char
  | .ofNat n => Nat.toDigits 10 n
  | .negSucc n => '-' :: Nat.toDigits 10 (n + 1)

/-! ## Compact text -/

mutual

def chars : Json → List Char
  | null => ['n', 'u', 'l', 'l']
  | bool true => ['t', 'r', 'u', 'e']
  | bool false => ['f', 'a', 'l', 's', 'e']
  | int n => intChars n
  | float x => x.chars
  | str s => stringChars s
  | arr [] => ['[', ']']
  | arr (x :: xs) => '[' :: chars x ++ itemsChars xs ++ [']']
  | obj [] => ['\x7b', '\x7d']
  | obj ((k, x) :: ms) => '\x7b' :: stringChars k ++ ':' :: chars x ++ membersChars ms ++ ['\x7d']

/-- The items after the first, each behind a comma. -/
def itemsChars : List Json → List Char
  | [] => []
  | x :: xs => ',' :: chars x ++ itemsChars xs

/-- The members after the first, each behind a comma. -/
def membersChars : List (String × Json) → List Char
  | [] => []
  | (k, x) :: ms => ',' :: stringChars k ++ ':' :: chars x ++ membersChars ms

end

def text (v : Json) : String := String.ofList v.chars

/-! ## Indented text -/

def newLine (level : Nat) : List Char := '\n' :: List.replicate (2 * level) ' '

mutual

def indentedChars (level : Nat) : Json → List Char
  | arr [] => ['[', ']']
  | arr (x :: xs) =>
    '[' :: newLine (level + 1) ++ indentedChars (level + 1) x ++ indentedItems (level + 1) xs ++
      newLine level ++ [']']
  | obj [] => ['\x7b', '\x7d']
  | obj ((k, x) :: ms) =>
    '\x7b' :: newLine (level + 1) ++ stringChars k ++ ':' :: ' ' :: indentedChars (level + 1) x ++
      indentedMembers (level + 1) ms ++ newLine level ++ ['\x7d']
  | null => ['n', 'u', 'l', 'l']
  | bool true => ['t', 'r', 'u', 'e']
  | bool false => ['f', 'a', 'l', 's', 'e']
  | int n => intChars n
  | float x => x.chars
  | str s => stringChars s

def indentedItems (level : Nat) : List Json → List Char
  | [] => []
  | x :: xs => ',' :: newLine level ++ indentedChars level x ++ indentedItems level xs

def indentedMembers (level : Nat) : List (String × Json) → List Char
  | [] => []
  | (k, x) :: ms =>
    ',' :: newLine level ++ stringChars k ++ ':' :: ' ' :: indentedChars level x ++
      indentedMembers level ms

end

def indentedText (v : Json) : String := String.ofList (v.indentedChars 0)

end Backlog.Json
