import Backlog.Filter.Predicate
import Backlog.Proofs.Number.Digits

/-!
# The places that a text shows

A place shows in a text as a question mark with a number behind it.

**Main statement (`marks_sql`).** The text of a predicate shows the places that the predicate names,
in the order of its terms, and no others, whatever column it is over that has no question mark.
-/

namespace Backlog

namespace Sql

variable {a b cs : List Char} {c : Char}

/-- The question marks of a text, each with the digits behind it. -/
def marks : List Char → List (List Char)
  | [] => []
  | c :: cs => if c = '?' then (c :: cs.takeWhile Char.isDigit) :: marks cs else marks cs

/-- How a place is written. -/
def mark (place : Nat) : List Char := '?' :: Nat.toDigits 10 place

theorem marks_cons_of_ne (hc : c ≠ '?') (cs : List Char) : marks (c :: cs) = marks cs := by
  rw [marks, if_neg hc]

theorem marks_eq_nil (h : '?' ∉ cs) : marks cs = [] := by
  induction cs with
  | nil => rfl
  | cons c cs ih =>
    rw [List.mem_cons, not_or] at h
    rw [marks_cons_of_ne (Ne.symm h.1), ih h.2]

theorem takeWhile_append_cons {p : Char → Bool} (hc : p c = false) (a b : List Char) :
    (a ++ c :: b).takeWhile p = a.takeWhile p := by
  induction a with
  | nil => simp [hc]
  | cons x a ih => simp [List.takeWhile_cons, ih]

/-- A character that belongs to no mark parts a text into two. -/
theorem marks_append_cons (hmark : c ≠ '?') (hdigit : c.isDigit = false) (a b : List Char) :
    marks (a ++ c :: b) = marks a ++ marks b := by
  induction a with
  | nil => exact marks_cons_of_ne hmark b
  | cons x a ih =>
    rw [List.cons_append, marks, marks, takeWhile_append_cons hdigit, ih]
    split <;> rfl

theorem marks_mark (place : Nat) : marks (mark place) = [mark place] := by
  have hdigits := IsDigits.toDigits place
  have hnone : '?' ∉ Nat.toDigits 10 place := fun h => absurd (hdigits '?' h) (by decide)
  have hend : EndsDigits [] := by simp [EndsDigits]
  have hall := hdigits.takeWhile_append hend
  rw [List.append_nil] at hall
  rw [mark, marks, if_pos rfl, marks_eq_nil hnone, hall]

theorem marks_blank (a b : List Char) : marks (a ++ ' ' :: b) = marks a ++ marks b :=
  marks_append_cons (by decide) rfl a b

theorem marks_parentheses (cs : List Char) : marks ('(' :: (cs ++ [')'])) = marks cs := by
  rw [marks_cons_of_ne (by decide), marks_append_cons (by decide) rfl, marks, List.append_nil]

/-- Terms with a word between them. -/
theorem marks_intercalate {word : List Char} (hword : '?' ∉ word) (texts : List (List Char)) :
    marks ((' ' :: (word ++ [' '])).intercalate texts) = texts.flatMap marks := by
  induction texts with
  | nil => rfl
  | cons cs texts ih =>
    cases texts with
    | nil => simp
    | cons cs' texts =>
      rw [List.intercalate_cons_cons, List.flatMap_cons, ← ih, List.append_assoc, List.cons_append,
        List.append_assoc, List.singleton_append, marks_blank, marks_blank, marks_eq_nil hword,
        List.nil_append]

end Sql

/-! ## Predicates -/

namespace Predicate

open Sql

mutual

/-- The places that a predicate names, from left to right. -/
def places : Predicate → List Nat
  | constant _ => []
  | isNull path | isNotNull path => [path]
  | compare path _ literal => [path, literal]
  | and terms | or terms => placesOf terms
  | not inner => places inner

def placesOf : List Predicate → List Nat
  | [] => []
  | p :: ps => places p ++ placesOf ps

end

variable {column : String}

theorem marks_extractText (hcolumn : '?' ∉ column.toList) (path : Nat) :
    marks (extractText column path).toList = [mark path] := by
  have htext : ("json_extract(" ++ column ++ ", ?" ++ toString path ++ ")").toList =
      ("json_extract(".toList ++ column.toList) ++ ',' :: ([] ++ ' ' :: (mark path ++ [')'])) := by
    simp [mark]
  have hfront : '?' ∉ "json_extract(".toList ++ column.toList := by
    rw [List.mem_append, not_or]
    exact ⟨by decide, hcolumn⟩
  show marks ("json_extract(" ++ column ++ ", ?" ++ toString path ++ ")").toList = _
  rw [htext, marks_append_cons (by decide) rfl, marks_eq_nil hfront, marks_blank,
    marks_append_cons (by decide) rfl, marks_mark]
  rfl

mutual

theorem marks_sql (hcolumn : '?' ∉ column.toList) (p : Predicate) :
    marks (p.sql column).toList = p.places.map mark := by
  cases p with
  | constant b =>
    rw [sql, marks_eq_nil (by cases b <;> decide)]
    rfl
  | isNull path =>
    have htext : ((isNull path).sql column).toList =
        (extractText column path).toList ++ ' ' :: "IS NULL".toList := by simp [sql]
    rw [htext, marks_blank, marks_extractText hcolumn, marks_eq_nil (by decide)]
    rfl
  | isNotNull path =>
    have htext : ((isNotNull path).sql column).toList =
        (extractText column path).toList ++ ' ' :: "IS NOT NULL".toList := by simp [sql]
    rw [htext, marks_blank, marks_extractText hcolumn, marks_eq_nil (by decide)]
    rfl
  | compare path op literal =>
    have htext : ((compare path op literal).sql column).toList =
        (extractText column path).toList ++ ' ' :: (op.sql.toList ++ ' ' :: mark literal) := by
      simp [sql, mark]
    have hop : '?' ∉ op.sql.toList := by cases op <;> decide
    rw [htext, marks_blank, marks_extractText hcolumn, marks_blank, marks_eq_nil hop, marks_mark]
    rfl
  | and terms =>
    have htext : ((and terms).sql column).toList =
        '(' :: ((' ' :: ("AND".toList ++ [' '])).intercalate
          ((sqlTerms column terms).map String.toList) ++ [')']) := by simp [sql]
    rw [htext, marks_parentheses, marks_intercalate (by decide), marks_sqlTerms hcolumn terms]
    rfl
  | or terms =>
    have htext : ((or terms).sql column).toList =
        '(' :: ((' ' :: ("OR".toList ++ [' '])).intercalate
          ((sqlTerms column terms).map String.toList) ++ [')']) := by simp [sql]
    rw [htext, marks_parentheses, marks_intercalate (by decide), marks_sqlTerms hcolumn terms]
    rfl
  | not inner =>
    have htext : ((not inner).sql column).toList =
        "NOT".toList ++ ' ' :: '(' :: ((inner.sql column).toList ++ [')']) := by simp [sql]
    rw [htext, marks_blank, marks_eq_nil (by decide), marks_parentheses, marks_sql hcolumn inner]
    rfl

theorem marks_sqlTerms (hcolumn : '?' ∉ column.toList) (ps : List Predicate) :
    ((sqlTerms column ps).map String.toList).flatMap marks = (placesOf ps).map mark := by
  cases ps with
  | nil => rfl
  | cons p ps =>
    rw [sqlTerms, List.map_cons, List.flatMap_cons, marks_sql hcolumn p, marks_sqlTerms hcolumn ps,
      placesOf, List.map_append]

end

end Predicate

end Backlog
