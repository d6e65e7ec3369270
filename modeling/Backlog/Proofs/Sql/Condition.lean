import Backlog.Proofs.Sql.Predicate
import Backlog.Store.Statement

/-!
# The condition on the rows of a list

A list asks for rows that are not deleted and that a predicate selects. The predicate stands in
parentheses behind the test of deletion, and whatever its connectives are, the test applies to all
of it (`read_condition`).
-/

namespace Backlog.Predicate

open Sql (Expr Row Token)

def isLive : Expr := .binary .is (.column ["w", "deleted_at_us"]) .null

theorem lex_condition (p : Predicate) : Sql.tokens? p.condition =
    some ((.name "w" :: .dot :: .name "deleted_at_us" :: [.is, .null, .and]) ++
      .opening :: (p.tokens ["w", "fields_json"] ++ [.closing])) := by
  have hdeleted : Sql.NamesColumn "w.deleted_at_us" ["w", "deleted_at_us"] := by decide
  have hnull : Sql.lex .nothing "IS NULL AND".toList = some [.is, .null, .and] := by decide
  have hfields : Sql.NamesColumn "w.fields_json" ["w", "fields_json"] := by decide
  have htext := lex_blank hdeleted.2 (lex_blank hnull (lex_parentheses (lex_sql hfields p)))
  show Sql.lex .nothing ("w.deleted_at_us IS NULL AND (" ++ p.sql "w.fields_json" ++ ")").toList = _
  simpa [Sql.nameTokens] using htext

theorem read_condition {p : Predicate} (hp : p.Joins) :
    Sql.read p.condition = some (.binary .and isLive (p.expr ["w", "fields_json"])) := by
  have hinner : Reads 0 [.paren, .left .and isLive] (p.tokens ["w", "fields_json"])
      (p.expr ["w", "fields_json"]) :=
    (reads_tokens (by simp) p hp [.paren, .left .and isLive] trivial).mono (Nat.zero_le 2)
  -- What stands before the parenthesis is one operand of `AND` when the other one begins.
  have hread : ((.name "w" :: .dot :: .name "deleted_at_us" :: [.is, .null, .and]) ++
      .opening :: (p.tokens ["w", "fields_json"] ++ [.closing]) : List Token).foldlM
        Sql.Reading.step ⟨[], .wanted⟩ =
      some ⟨[.left .and isLive], .done (p.expr ["w", "fields_json"])⟩ :=
    foldlM_parentheses hinner
  rw [Sql.read, lex_condition, Option.bind_some, Sql.parse, hread]
  rfl

/-- The condition is true of the rows that are not deleted and of which the predicate is true. -/
theorem value_condition {p : Predicate} {row : Row} {params : List Datum} {extract : Datum → Datum}
    (hp : p.Joins) (hplace : ∀ k, row.place k = bound params k)
    (hextract : ∀ d, row.extract (row.column ["w", "fields_json"]) d = extract d) :
    (Expr.binary .and isLive (p.expr ["w", "fields_json"])).value row = .int 1 ↔
      row.column ["w", "deleted_at_us"] = .null ∧ p.truth params extract = .yes := by
  have hlive : isLive.value row =
      (Truth.ofBool (row.column ["w", "deleted_at_us"] = .null)).datum :=
    congrArg (fun b => (Truth.ofBool b).datum) (Sql.same_null _)
  show ((row.truth (isLive.value row)).and
    (row.truth ((p.expr ["w", "fields_json"]).value row))).datum = _ ↔ _
  rw [hlive, value_expr hplace hextract p hp, Row.truth_datum, Row.truth_datum]
  by_cases hnull : row.column ["w", "deleted_at_us"] = .null
  · cases p.truth params extract <;> simp [hnull, Truth.ofBool, Truth.and, Truth.datum]
  · cases p.truth params extract <;> simp [hnull, Truth.ofBool, Truth.and, Truth.datum]

end Backlog.Predicate
