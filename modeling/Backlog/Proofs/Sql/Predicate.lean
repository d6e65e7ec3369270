import Backlog.Filter.Predicate
import Backlog.Proofs.Sql.Expression
import Mathlib.Data.List.Forall2

/-!
# Texts of predicates are read as they are meant

**Main statement (`value_read_sql`).** The text of a predicate, over the name of a column, is read
as one expression, and its value on a row is the truth of the predicate there.

**Two steps.** A text is first taken apart into tokens (`lex_sql`), which are then read as an
expression (`reads_tokens`). Connectives stand in parentheses, and what is inside of them binds
tighter than the connective; so an operand is joined before the next operator is seen, and it does
not matter which operators it ended with (`Reads`).
-/

namespace Backlog

namespace Predicate

open Sql (Token Expr Binary)

/-! ## Tokens and expressions -/

def fieldTokens (parts : List String) (path : Nat) : List Token :=
  .name "json_extract" :: .opening :: (Sql.nameTokens parts ++ [.comma, .place path, .closing])

def fieldExpr (parts : List String) (path : Nat) : Expr := .extract (.column parts) (.place path)

mutual

def tokens (parts : List String) : Predicate → List Token
  | constant b => [.number (if b then 1 else 0)]
  | isNull path => fieldTokens parts path ++ [.is, .null]
  | isNotNull path => fieldTokens parts path ++ [.is, .not, .null]
  | compare path op literal => fieldTokens parts path ++ [.compare op, .place literal]
  | and terms => .opening :: ([Token.and].intercalate (termTokens parts terms) ++ [.closing])
  | or terms => .opening :: ([Token.or].intercalate (termTokens parts terms) ++ [.closing])
  | not inner => .not :: .opening :: (tokens parts inner ++ [.closing])

def termTokens (parts : List String) : List Predicate → List (List Token)
  | [] => []
  | p :: ps => tokens parts p :: termTokens parts ps

end

/-- Operands joined from the left. -/
def chain (op : Binary) : List Expr → Expr
  | [] => .null
  | e :: es => es.foldl (.binary op) e

mutual

def expr (parts : List String) : Predicate → Expr
  | constant b => .number (if b then 1 else 0)
  | isNull path => .binary .is (fieldExpr parts path) .null
  | isNotNull path => .binary .isNot (fieldExpr parts path) .null
  | compare path op literal => .binary (.compare op) (fieldExpr parts path) (.place literal)
  | and terms => chain .and (termExprs parts terms)
  | or terms => chain .or (termExprs parts terms)
  | not inner => .not (expr parts inner)

def termExprs (parts : List String) : List Predicate → List Expr
  | [] => []
  | p :: ps => expr parts p :: termExprs parts ps

end

mutual

/-- Every connective has a term. -/
def Joins : Predicate → Prop
  | and terms | or terms => terms ≠ [] ∧ AllJoin terms
  | not inner => Joins inner
  | _ => True

def AllJoin : List Predicate → Prop
  | [] => True
  | p :: ps => Joins p ∧ AllJoin ps

end

/-! ## The text taken apart -/

section Text

open Sql

variable {column : String} {parts : List String}

theorem lex_parentheses {cs : List Char} {ts : List Token} (h : lex .nothing cs = some ts) :
    lex .nothing ('(' :: (cs ++ [')'])) = some (.opening :: (ts ++ [.closing])) := by
  have hclose : lex .nothing (cs ++ [')']) = some (ts ++ [.closing] ++ []) :=
    lex_append h (.inr (.inr (.inl ⟨rfl, rfl⟩))) rfl
  rw [List.append_nil] at hclose
  exact lex_separator (p := .nothing) (.inr (.inl ⟨rfl, rfl⟩)) rfl hclose

theorem lex_blank {a b : List Char} {ta tb : List Token} (ha : lex .nothing a = some ta)
    (hb : lex .nothing b = some tb) : lex .nothing (a ++ ' ' :: b) = some (ta ++ tb) := by
  have h := lex_append ha (.inl ⟨rfl, rfl⟩) hb
  rwa [List.append_nil] at h

theorem lex_field (h : NamesColumn column parts) (path : Nat) :
    lex .nothing (extractText column path).toList = some (fieldTokens parts path) := by
  have hplace : lex .nothing ((' ' :: '?' :: Nat.toDigits 10 path) ++ [')']) =
      some ([.place path] ++ [.closing] ++ []) :=
    lex_append (lex_blank (a := []) rfl (lex_placeText path)) (.inr (.inr (.inl ⟨rfl, rfl⟩))) rfl
  have hcolumn := lex_append h.2 (.inr (.inr (.inr ⟨rfl, rfl⟩))) hplace
  have hname : lex .nothing "json_extract".toList = some [.name "json_extract"] := by decide
  have hfield := lex_append hname (.inr (.inl ⟨rfl, rfl⟩)) hcolumn
  show lex .nothing ("json_extract(" ++ column ++ ", ?" ++ toString path ++ ")").toList = _
  simpa [fieldTokens] using hfield

/-- Terms with a word between them. -/
theorem lex_intercalate {word : String} {t : Token} (hword : lex .nothing word.toList = some [t])
    {texts : List (List Char)} {terms : List (List Token)}
    (h : List.Forall₂ (fun cs ts => lex .nothing cs = some ts) texts terms) :
    lex .nothing ((' ' :: (word.toList ++ [' '])).intercalate texts) =
      some ([t].intercalate terms) := by
  induction h with
  | nil => rfl
  | @cons cs ts texts terms hfirst hrest ih =>
    cases hrest with
    | nil => simpa using hfirst
    | @cons cs' ts' texts terms _ _ =>
      have hmore := lex_blank hfirst (lex_blank hword ih)
      simpa [List.intercalate_cons_cons] using hmore

mutual

theorem lex_sql (h : NamesColumn column parts) (p : Predicate) :
    lex .nothing (p.sql column).toList = some (p.tokens parts) := by
  cases p with
  | constant b =>
    have hdigit : ∀ b : Bool, lex .nothing (if b then "1" else "0").toList =
        some [.number (if b then 1 else 0)] := by decide
    exact hdigit b
  | isNull path =>
    have hnull : lex .nothing "IS NULL".toList = some [.is, .null] := by decide
    have htext := lex_blank (lex_field h path) hnull
    simpa [sql, tokens] using htext
  | isNotNull path =>
    have hnull : lex .nothing "IS NOT NULL".toList = some [.is, .not, .null] := by decide
    have htext := lex_blank (lex_field h path) hnull
    simpa [sql, tokens] using htext
  | compare path op literal =>
    have hop : lex .nothing op.sql.toList = some [.compare op] := by cases op <;> decide
    have htext := lex_blank (lex_field h path) (lex_blank hop (lex_placeText literal))
    simpa [sql, tokens] using htext
  | and terms =>
    have hword : lex .nothing "AND".toList = some [.and] := by decide
    have htext := lex_parentheses (lex_intercalate hword (lex_sqlTerms h terms))
    simpa [sql, tokens] using htext
  | or terms =>
    have hword : lex .nothing "OR".toList = some [.or] := by decide
    have htext := lex_parentheses (lex_intercalate hword (lex_sqlTerms h terms))
    simpa [sql, tokens] using htext
  | not inner =>
    have hword : lex .nothing "NOT".toList = some [.not] := by decide
    have htext := lex_blank hword (lex_parentheses (lex_sql h inner))
    simpa [sql, tokens] using htext

theorem lex_sqlTerms (h : NamesColumn column parts) (ps : List Predicate) :
    List.Forall₂ (fun cs ts => lex .nothing cs = some ts) ((sqlTerms column ps).map String.toList)
      (termTokens parts ps) := by
  cases ps with
  | nil => exact .nil
  | cons p ps => exact .cons (lex_sql h p) (lex_sqlTerms h ps)

end

end Text

/-! ## The tokens read -/

section Tokens

open Sql (Frame Reading reduce nameTokens)

variable {parts : List String} {stack : List Frame} {ts : List Token} {op : Binary} {e f : Expr}

/-- What stands here leaves an operand alone up to an operator that binds no tighter than `AND`. -/
def Loose : List Frame → Prop
  | [] | .paren :: _ => True
  | .left op _ :: _ => op.level ≤ 2
  | _ => False

theorem reduce_of_loose {level : Nat} (h : Loose stack) (hlevel : 2 < level) (e : Expr) :
    reduce level stack e = (stack, e) := by
  cases stack with
  | nil => rfl
  | cons frame stack =>
    cases frame with
    | left op a =>
      have hop : op.level ≤ 2 := h
      rw [reduce, if_neg (by omega)]
    | not => exact h.elim
    | _ => rfl

theorem reduce_left {level : Nat} (h : level ≤ op.level) :
    reduce level (.left op f :: stack) e = reduce level stack (.binary op f e) := by
  rw [reduce, if_pos h]

/-- The tokens are an operand, which every operator that binds no tighter than a level finds joined
to the expression. -/
def Reads (level : Nat) (stack : List Frame) (ts : List Token) (e : Expr) : Prop :=
  ∃ r a, ts.foldlM Reading.step ⟨stack, .wanted⟩ = some r ∧ r.focus.expr? = some a ∧
    ∀ l ≤ level, reduce l r.stack a = reduce l stack e

theorem reads_of_foldlM {level : Nat}
    (h : ts.foldlM Reading.step ⟨stack, .wanted⟩ = some ⟨stack, .done e⟩) :
    Reads level stack ts e :=
  ⟨_, e, h, rfl, fun _ _ => rfl⟩

theorem Reads.mono {level level' : Nat} (h : Reads level stack ts e) (hle : level' ≤ level) :
    Reads level' stack ts e := by
  obtain ⟨r, a, hr, ha, hreduce⟩ := h
  exact ⟨r, a, hr, ha, fun l hl => hreduce l (Nat.le_trans hl hle)⟩

theorem foldlM_nameTokens (hparts : parts ≠ []) (more : List Token) :
    (nameTokens parts ++ more).foldlM Reading.step ⟨stack, .wanted⟩ =
      more.foldlM Reading.step ⟨stack, .named parts⟩ := by
  have hdotted : ∀ parts ≠ [], ∀ before,
      (nameTokens parts ++ more).foldlM Reading.step ⟨stack, .dotted before⟩ =
        more.foldlM Reading.step ⟨stack, .named (before ++ parts)⟩ := by
    intro parts hparts
    induction parts with
    | nil => exact absurd rfl hparts
    | cons s parts ih =>
      intro before
      cases parts with
      | nil => rfl
      | cons s' parts =>
        have hrest := ih (by simp) (before ++ [s])
        rw [List.append_assoc, List.singleton_append] at hrest
        exact hrest
  cases parts with
  | nil => exact absurd rfl hparts
  | cons s parts =>
    cases parts with
    | nil => rfl
    | cons s' parts => exact hdotted (s' :: parts) (by simp) [s]

theorem foldlM_fieldTokens (hparts : parts ≠ []) (path : Nat) (more : List Token) :
    (fieldTokens parts path ++ more).foldlM Reading.step ⟨stack, .wanted⟩ =
      more.foldlM Reading.step ⟨stack, .done (fieldExpr parts path)⟩ := by
  have hname : (nameTokens parts ++
      ([Token.comma, Token.place path, Token.closing] ++ more)).foldlM Reading.step
        ⟨.document :: stack, .wanted⟩ = _ := foldlM_nameTokens hparts _
  rw [← List.append_assoc] at hname
  exact hname

/-- A field joined to one more operand by an operator that binds tighter than `AND`. -/
theorem reads_left (hop : 2 < op.level)
    (h : ts.foldlM Reading.step ⟨stack, .wanted⟩ = some ⟨.left op f :: stack, .done e⟩) :
    Reads 2 stack ts (.binary op f e) :=
  ⟨_, e, h, rfl, fun l hl => reduce_left (by omega)⟩

theorem foldlM_parentheses (h : Reads 0 (.paren :: stack) ts e) :
    (.opening :: (ts ++ [.closing]) : List Token).foldlM Reading.step ⟨stack, .wanted⟩ =
      some ⟨stack, .done e⟩ := by
  obtain ⟨r, a, hr, ha, hreduce⟩ := h
  -- A closing parenthesis joins everything since it was opened, as an operator of level zero would.
  have hinner : (ts ++ [Token.closing]).foldlM Reading.step ⟨.paren :: stack, .wanted⟩ =
      some ⟨stack, .done e⟩ := by
    rw [List.foldlM_append, hr]
    show Reading.closing r >>= _ = _
    rw [Reading.closing, Reading.joined?, ha, Option.map_some, hreduce 0 (Nat.le_refl 0)]
    rfl
  exact hinner

theorem intercalate_eq_flatMap (t : Token) (ts : List Token) (tss : List (List Token)) :
    [t].intercalate (ts :: tss) = ts ++ tss.flatMap (t :: ·) := by
  induction tss generalizing ts with
  | nil => simp
  | cons ts' tss ih => rw [List.intercalate_cons_cons, ih, List.flatMap_cons]; simp

/-- Each further operand is joined to those before it when the next operator is seen. -/
theorem foldlM_more {t : Token} (ht : ∀ r, Reading.step r t = r.binary op) (hop : op.level ≤ 2)
    {tss : List (List Token)} {es : List Expr}
    (h : List.Forall₂ (fun ts e => ∀ stack, Loose stack → Reads 2 stack ts e) tss es)
    {r : Reading} {a acc : Expr} (ha : r.focus.expr? = some a)
    (hreduce : ∀ l ≤ op.level, reduce l r.stack a = (.paren :: stack, acc)) :
    ∃ r' a', (tss.flatMap (t :: ·)).foldlM Reading.step r = some r' ∧ r'.focus.expr? = some a' ∧
      ∀ l ≤ op.level, reduce l r'.stack a' = (.paren :: stack, es.foldl (.binary op) acc) := by
  induction h generalizing r a acc with
  | nil => exact ⟨r, a, rfl, ha, hreduce⟩
  | @cons ts e tss es hfirst _ ih =>
    have hbinary : Reading.step r t = some ⟨.left op acc :: .paren :: stack, .wanted⟩ := by
      rw [ht, Reading.binary, ha, Option.map_some, hreduce op.level (Nat.le_refl _)]
    obtain ⟨r₁, a₁, hr₁, ha₁, hreduce₁⟩ := hfirst (.left op acc :: .paren :: stack) hop
    have hjoined : ∀ l ≤ op.level, reduce l r₁.stack a₁ = (.paren :: stack, .binary op acc e) := by
      intro l hl
      rw [hreduce₁ l (Nat.le_trans hl hop), reduce_left hl]
      rfl
    obtain ⟨r₂, a₂, hr₂, ha₂, hreduce₂⟩ := ih ha₁ hjoined
    refine ⟨r₂, a₂, ?_, ha₂, hreduce₂⟩
    rw [List.flatMap_cons, List.cons_append, List.foldlM_cons, hbinary]
    show (ts ++ _).foldlM Reading.step _ = _
    rw [List.foldlM_append, hr₁]
    exact hr₂

/-- A connective in parentheses is read as its terms joined from the left. -/
theorem reads_connective {t : Token} (ht : ∀ r, Reading.step r t = r.binary op)
    (hop : op.level ≤ 2) {tss : List (List Token)} {es : List Expr} (hne : tss ≠ [])
    (h : List.Forall₂ (fun ts e => ∀ stack, Loose stack → Reads 2 stack ts e) tss es) :
    Reads 2 stack (.opening :: ([t].intercalate tss ++ [.closing])) (chain op es) := by
  refine reads_of_foldlM (foldlM_parentheses ?_)
  cases h with
  | nil => exact absurd rfl hne
  | @cons ts e tss es hfirst hrest =>
    obtain ⟨r, a, hr, ha, hreduce⟩ := hfirst (.paren :: stack) trivial
    obtain ⟨r', a', hr', ha', hreduce'⟩ := foldlM_more ht hop hrest ha
      fun l hl => hreduce l (Nat.le_trans hl hop)
    refine ⟨r', a', ?_, ha', fun l hl => hreduce' l (Nat.le_trans hl (Nat.zero_le _))⟩
    rw [intercalate_eq_flatMap, List.foldlM_append, hr]
    exact hr'

theorem termTokens_ne_nil {ps : List Predicate} (h : ps ≠ []) : termTokens parts ps ≠ [] := by
  cases ps with
  | nil => exact absurd rfl h
  | cons p ps => exact List.cons_ne_nil _ _

theorem binary_of_loose (hop : 2 < op.level) (hstack : Loose stack) (e : Expr) :
    Reading.binary op ⟨stack, .done e⟩ = some ⟨.left op e :: stack, .wanted⟩ := by
  show some (Reading.mk (.left op (reduce op.level stack e).2 :: (reduce op.level stack e).1) _) = _
  rw [reduce_of_loose hstack hop]

/-- `NOT` joins what stands in parentheses behind it before any looser operator. -/
theorem reads_not (hstack : Loose stack) (h : Reads 0 (.paren :: .not :: stack) ts e) :
    Reads 2 stack (.not :: .opening :: (ts ++ [.closing])) (.not e) := by
  have hnot : Reading.not ⟨stack, .wanted⟩ = some ⟨.not :: stack, .wanted⟩ := by
    match stack, hstack with
    | [], _ => rfl
    | .paren :: _, _ => rfl
    | .left .or _ :: _, _ => rfl
    | .left .and _ :: _, _ => rfl
    | .left .is _ :: _, hstack => exact absurd hstack (by decide : ¬ 4 ≤ 2)
    | .left .isNot _ :: _, _ => rfl
    | .left (.compare _) _ :: _, _ => rfl
  refine ⟨⟨.not :: stack, .done e⟩, e, ?_, rfl, fun l hl => ?_⟩
  · show Reading.not ⟨stack, .wanted⟩ >>= _ = _
    rw [hnot]
    exact foldlM_parentheses h
  · show reduce l (.not :: stack) e = _
    rw [reduce, if_pos (Nat.le_trans hl (by decide))]

mutual

/-- The tokens of a predicate are read as its expression, wherever an operand of a connective may
stand. -/
theorem reads_tokens (hparts : parts ≠ []) (p : Predicate) (hp : p.Joins) (stack : List Frame)
    (hstack : Loose stack) : Reads 2 stack (p.tokens parts) (p.expr parts) := by
  cases p with
  | constant b => exact reads_of_foldlM rfl
  | isNull path =>
    refine reads_left (by decide) ?_
    rw [tokens, foldlM_fieldTokens hparts]
    show Reading.binary .is _ >>= _ = _
    rw [binary_of_loose (by decide) hstack]
    rfl
  | isNotNull path =>
    refine reads_left (by decide) ?_
    rw [tokens, foldlM_fieldTokens hparts]
    show Reading.binary .is _ >>= _ = _
    rw [binary_of_loose (by decide) hstack]
    rfl
  | compare path op literal =>
    have hop : 2 < (Binary.compare op).level := by cases op <;> decide
    refine reads_left hop ?_
    rw [tokens, foldlM_fieldTokens hparts]
    show Reading.binary (.compare op) _ >>= _ = _
    rw [binary_of_loose hop hstack]
    rfl
  | and terms =>
    have hne : termTokens parts terms ≠ [] := termTokens_ne_nil hp.1
    exact reads_connective (fun _ => rfl) (by decide) hne (reads_termTokens hparts terms hp.2)
  | or terms =>
    have hne : termTokens parts terms ≠ [] := termTokens_ne_nil hp.1
    exact reads_connective (fun _ => rfl) (by decide) hne (reads_termTokens hparts terms hp.2)
  | not inner =>
    have hinner := reads_tokens hparts inner hp (.paren :: .not :: stack) trivial
    exact reads_not hstack (hinner.mono (by decide))

theorem reads_termTokens (hparts : parts ≠ []) (ps : List Predicate) (hps : AllJoin ps) :
    List.Forall₂ (fun ts e => ∀ stack, Loose stack → Reads 2 stack ts e) (termTokens parts ps)
      (termExprs parts ps) := by
  cases ps with
  | nil => exact .nil
  | cons p ps => exact .cons (reads_tokens hparts p hps.1) (reads_termTokens hparts ps hps.2)

end

theorem read_sql {column : String} (hcolumn : Sql.NamesColumn column parts) {p : Predicate}
    (hp : p.Joins) : Sql.read (p.sql column) = some (p.expr parts) := by
  obtain ⟨r, a, hr, ha, hreduce⟩ := reads_tokens hcolumn.1 p hp [] trivial
  have htokens : Sql.tokens? (p.sql column) = some (p.tokens parts) := lex_sql hcolumn p
  have hjoined : Reading.joined? r = some ([], p.expr parts) := by
    rw [Reading.joined?, ha, Option.map_some, hreduce 0 (Nat.zero_le 2)]
    rfl
  rw [Sql.read, htokens, Option.bind_some, Sql.parse, hr, Option.bind_some, hjoined]

end Tokens

/-! ## The value of the expression -/

section Value

open Sql (Row)

variable {row : Row} {parts : List String} {params : List Datum} {extract : Datum → Datum}

/-- Operands joined from the left have the value of their truths joined from the right. -/
theorem value_chain {op : Binary} {f : Truth → Truth → Truth} {unit : Truth}
    (hop : ∀ a b, op.truth row a b = f (row.truth a) (row.truth b))
    (hassoc : ∀ a b c, f (f a b) c = f a (f b c)) (hunit : ∀ a, f a unit = a)
    {es : List Expr} {ts : List Truth} (hne : es ≠ [])
    (h : List.Forall₂ (fun e t => e.value row = t.datum) es ts) :
    (chain op es).value row = (ts.foldr f unit).datum := by
  have hfold : ∀ (acc : Expr) (t : Truth), acc.value row = t.datum →
      ∀ es ts, List.Forall₂ (fun e t => e.value row = t.datum) es ts →
        (es.foldl (.binary op) acc).value row = (f t (ts.foldr f unit)).datum := by
    intro acc t hacc es ts h
    induction h generalizing acc t with
    | nil => rw [List.foldl_nil, List.foldr_nil, hunit, hacc]
    | @cons e t' es ts hfirst _ ih =>
      have hjoin : (Expr.binary op acc e).value row = (f t t').datum := by
        rw [Expr.value, hop, hacc, hfirst, Row.truth_datum, Row.truth_datum]
      rw [List.foldl_cons, ih _ _ hjoin, List.foldr_cons, hassoc]
  cases h with
  | nil => exact absurd rfl hne
  | cons hfirst hrest => exact hfold _ _ hfirst _ _ hrest

theorem termExprs_ne_nil {ps : List Predicate} (h : ps ≠ []) : termExprs parts ps ≠ [] := by
  cases ps with
  | nil => exact absurd rfl h
  | cons p ps => exact List.cons_ne_nil _ _

theorem value_fieldExpr (hplace : ∀ k, row.place k = bound params k)
    (hextract : ∀ d, row.extract (row.column parts) d = extract d) (path : Nat) :
    (fieldExpr parts path).value row = extract (bound params path) := by
  show row.extract (row.column parts) (row.place path) = _
  rw [hplace, hextract]

mutual

theorem value_expr (hplace : ∀ k, row.place k = bound params k)
    (hextract : ∀ d, row.extract (row.column parts) d = extract d) (p : Predicate) (hp : p.Joins) :
    (p.expr parts).value row = (p.truth params extract).datum := by
  cases p with
  | constant b => cases b <;> rfl
  | isNull path =>
    rw [expr, Expr.value, value_fieldExpr hplace hextract, truth]
    exact congrArg (fun b => (Truth.ofBool b).datum) (Sql.same_null _)
  | isNotNull path =>
    rw [expr, Expr.value, value_fieldExpr hplace hextract, truth, decide_not]
    exact congrArg (fun b => (Truth.ofBool !b).datum) (Sql.same_null _)
  | compare path op literal =>
    rw [expr, Expr.value, value_fieldExpr hplace hextract, Expr.value, hplace]
    rfl
  | and terms =>
    exact value_chain (fun _ _ => rfl) Truth.and_assoc Truth.and_yes (termExprs_ne_nil hp.1)
      (value_termExprs hplace hextract terms hp.2)
  | or terms =>
    exact value_chain (fun _ _ => rfl) Truth.or_assoc Truth.or_no (termExprs_ne_nil hp.1)
      (value_termExprs hplace hextract terms hp.2)
  | not inner =>
    rw [expr, Expr.value, value_expr hplace hextract inner hp, Row.truth_datum, truth]

theorem value_termExprs (hplace : ∀ k, row.place k = bound params k)
    (hextract : ∀ d, row.extract (row.column parts) d = extract d) (ps : List Predicate)
    (hps : AllJoin ps) :
    List.Forall₂ (fun e t => e.value row = t.datum) (termExprs parts ps)
      (truths params extract ps) := by
  cases ps with
  | nil => exact .nil
  | cons p ps =>
    exact .cons (value_expr hplace hextract p hps.1) (value_termExprs hplace hextract ps hps.2)

end

end Value

/-- The text of a predicate is read as an expression, whose value on a row is the predicate's truth
there. -/
theorem value_read_sql {column : String} {parts : List String} {row : Sql.Row}
    {params : List Datum} {extract : Datum → Datum} (hcolumn : Sql.NamesColumn column parts)
    (hplace : ∀ k, row.place k = bound params k)
    (hextract : ∀ d, row.extract (row.column parts) d = extract d) {p : Predicate} (hp : p.Joins) :
    ∃ e, Sql.read (p.sql column) = some e ∧ e.value row = (p.truth params extract).datum :=
  ⟨p.expr parts, read_sql hcolumn hp, value_expr hplace hextract p hp⟩

end Predicate

end Backlog
