import Backlog.Filter.Basic
import Backlog.Proofs.Number.Digits
import Mathlib.Control.Basic

/-!
# Tokens of SQL

The part of SQL that predicates and the names of columns are written in: names, numbered places,
whole numbers, comparisons and the words `AND`, `OR`, `NOT`, `IS` and `NULL`.

**Character by character.** Each character continues what was begun (`Pending`), or ends that and
begins something else. Parentheses, commas and blanks end whatever stands before them, so a text is
taken apart at them (`lex_append`).
-/

namespace Backlog.Sql

inductive Token
  | number (n : Nat)
  | place (n : Nat)
  | name (s : String)
  | opening
  | closing
  | comma
  | dot
  | compare (op : CompareOp)
  | is
  | null
  | not
  | and
  | or
deriving DecidableEq

/-! ## Characters -/

def isBlank (c : Char) : Bool := c = ' ' || c = '\t' || c = '\n' || c = '\r' || c = '\x0c'

def startsWord (c : Char) : Bool := c.isAlpha || c = '_' || 128 ≤ c.toNat

def continuesWord (c : Char) : Bool := startsWord c || c.isDigit || c = '$'

def isSign (c : Char) : Bool := c = '=' || c = '<' || c = '>' || c = '!'

/-! ## Lexing -/

/-- What has been begun and may go on. -/
inductive Pending
  | nothing
  | word (cs : List Char)
  | number (ds : List Char)
  | place (ds : List Char)
  | sign (cs : List Char)
  /-- A name between double quotes, up to here. -/
  | quoted (cs : List Char)
  /-- The same with a quote behind it, which ends it or is the first of two. -/
  | closed (cs : List Char)

/-- Words have a meaning of their own, in letters of either size, or are names. -/
def wordToken (cs : List Char) : Token :=
  let word := Text.lower (String.ofList cs)
  if word = "and" then .and
  else if word = "or" then .or
  else if word = "not" then .not
  else if word = "is" then .is
  else if word = "null" then .null
  else .name (String.ofList cs)

def signToken? (cs : List Char) : Option Token :=
  if cs = ['='] ∨ cs = ['=', '='] then some (.compare .eq)
  else if cs = ['<', '>'] ∨ cs = ['!', '='] then some (.compare .ne)
  else if cs = ['<'] then some (.compare .lt)
  else if cs = ['<', '='] then some (.compare .le)
  else if cs = ['>'] then some (.compare .gt)
  else if cs = ['>', '='] then some (.compare .ge)
  else none

namespace Pending

/-- The tokens that are complete if nothing continues what was begun. -/
def finish? : Pending → Option (List Token)
  | nothing => some []
  | word cs => some [wordToken cs]
  | number ds => some [.number (Decimal.ofDigits ds)]
  | place [] => none
  | place (d :: ds) => some [.place (Decimal.ofDigits (d :: ds))]
  | sign cs => (signToken? cs).map ([·])
  | quoted _ => none
  | closed cs => some [.name (String.ofList cs)]

def continue? (c : Char) : Pending → Option Pending
  | nothing => none
  | word cs => if continuesWord c then some (word (cs ++ [c])) else none
  | number ds => if c.isDigit then some (number (ds ++ [c])) else none
  | place ds => if c.isDigit then some (place (ds ++ [c])) else none
  | sign cs => if isSign c then some (sign (cs ++ [c])) else none
  | quoted cs => if c = '"' then some (closed cs) else some (quoted (cs ++ [c]))
  | closed cs => if c = '"' then some (quoted (cs ++ [c])) else none

/-- What a character begins, with the token that it is by itself. -/
def begin? (c : Char) : Option (List Token × Pending) :=
  if isBlank c then some ([], nothing)
  else if c = '(' then some ([.opening], nothing)
  else if c = ')' then some ([.closing], nothing)
  else if c = ',' then some ([.comma], nothing)
  else if c = '.' then some ([.dot], nothing)
  else if c = '?' then some ([], place [])
  else if c = '"' then some ([], quoted [])
  else if startsWord c then some ([], word [c])
  else if c.isDigit then some ([], number [c])
  else if isSign c then some ([], sign [c])
  else none

end Pending

/-- The tokens of a text behind what has been begun. -/
def lex (p : Pending) : List Char → Option (List Token)
  | [] => p.finish?
  | c :: cs =>
    match p.continue? c, p.finish?, Pending.begin? c with
    | some p, _, _ => lex p cs
    | none, some ended, some (ts, p) => (lex p cs).map (ended ++ ts ++ ·)
    | none, _, _ => none

def tokens? (s : String) : Option (List Token) := lex .nothing s.toList

/-! ## Taking texts apart -/

/-- Characters that end whatever stands before them. -/
def Separates (c : Char) (ts : List Token) : Prop :=
  c = ' ' ∧ ts = [] ∨ c = '(' ∧ ts = [.opening] ∨ c = ')' ∧ ts = [.closing] ∨
    c = ',' ∧ ts = [.comma]

theorem lex_continue {p q : Pending} {c : Char} (h : p.continue? c = some q) (cs : List Char) :
    lex p (c :: cs) = lex q cs := by
  rw [lex, h]

theorem lex_begin {p q : Pending} {c : Char} {ended ts : List Token} (h : p.continue? c = none)
    (hended : p.finish? = some ended) (hbegin : Pending.begin? c = some (ts, q)) (cs : List Char) :
    lex p (c :: cs) = (lex q cs).map (ended ++ ts ++ ·) := by
  rw [lex, h, hended, hbegin]

theorem lex_separator {p : Pending} {c : Char} {ts ended rest : List Token} {cs : List Char}
    (hc : Separates c ts) (hended : p.finish? = some ended) (hrest : lex .nothing cs = some rest) :
    lex p (c :: cs) = some (ended ++ ts ++ rest) := by
  have hbegin : Pending.begin? c = some (ts, .nothing) := by
    rcases hc with ⟨rfl, rfl⟩ | ⟨rfl, rfl⟩ | ⟨rfl, rfl⟩ | ⟨rfl, rfl⟩ <;> rfl
  have hends : p.continue? c = none := by
    cases p with
    | quoted cs => cases hended
    | _ => rcases hc with ⟨rfl, rfl⟩ | ⟨rfl, rfl⟩ | ⟨rfl, rfl⟩ | ⟨rfl, rfl⟩ <;> rfl
  rw [lex_begin hends hended hbegin, hrest]
  rfl

/-- A text before a separator and the text behind it are taken apart on their own. -/
theorem lex_append {p : Pending} {a b : List Char} {c : Char} {ts ta tb : List Token}
    (ha : lex p a = some ta) (hc : Separates c ts) (hb : lex .nothing b = some tb) :
    lex p (a ++ c :: b) = some (ta ++ ts ++ tb) := by
  induction a generalizing p ta with
  | nil => exact lex_separator hc ha hb
  | cons x a ih =>
    rw [List.cons_append]
    rw [lex] at ha
    split at ha
    next q _ _ hq => rw [lex_continue hq, ih ha]
    next ended us q hnone hended hbegin =>
      obtain ⟨rest, hrest, rfl⟩ := Option.map_eq_some_iff.1 ha
      rw [lex_begin hnone hended hbegin, ih hrest]
      simp
    · cases ha

/-! ## Places -/

theorem lex_place {ds more : List Char} (h : IsDigits more) (hne : ds ++ more ≠ []) :
    lex (.place ds) more = some [.place (Decimal.ofDigits (ds ++ more))] := by
  induction more generalizing ds with
  | nil =>
    rw [List.append_nil] at hne ⊢
    cases ds with
    | nil => exact absurd rfl hne
    | cons d ds => rfl
  | cons c more ih =>
    obtain ⟨hc, hmore⟩ := List.forall_mem_cons.1 h
    rw [lex_continue (by rw [Pending.continue?, if_pos hc]), ih hmore (by simp), List.append_assoc,
      List.singleton_append]

/-- A numbered place. -/
theorem lex_placeText (n : Nat) : lex .nothing ('?' :: Nat.toDigits 10 n) = some [.place n] := by
  rw [lex_begin rfl rfl rfl, lex_place (IsDigits.toDigits n) (by simp [Nat.toDigits_ne_nil])]
  simp [Decimal.ofDigits_toDigits]

/-! ## Names of columns -/

/-- The tokens of a name, with those of what it belongs to before it. -/
def nameTokens : List String → List Token
  | [] => []
  | [s] => [.name s]
  | s :: parts => .name s :: .dot :: nameTokens parts

/-- The text names a column, perhaps as one of a table. -/
def NamesColumn (column : String) (parts : List String) : Prop :=
  parts ≠ [] ∧ tokens? column = some (nameTokens parts)

instance (column : String) (parts : List String) : Decidable (NamesColumn column parts) := by
  unfold NamesColumn
  infer_instance

example : NamesColumn "w.fields_json" ["w", "fields_json"] := by decide

end Backlog.Sql
