import Backlog.Proofs.Filter.Compile
import Backlog.Store.Extract

/-!
# What compiled filters say

**Main statement (`value_read_compiled`).** A filter that compiles gives a text and a list of
values. Read as SQL over a row, with the values at their places, the text has the truth of the
filter over the stored fields of that row.

**The row.** How a value is taken out of a document is not part of the text. It is taken for granted
that a path leads to the field that it names (`Follows`), and to nothing if that is not there.
-/

namespace Backlog

namespace Filter

/-- The value of a stored field in a comparison. -/
def fieldValue (stored : Record Json) (field : String) : Datum :=
  ((stored.find? field).map Datum.ofJson).getD .null

/-- **The text of a compiled filter has the truth of the filter.** -/
theorem value_read_compiled {f : Filter} {p : Predicate} {before params : List Datum}
    (hcompiled : f.toPredicate before = (.ok p, params)) {column : String} {parts : List String}
    (hcolumn : Sql.NamesColumn column parts) {row : Sql.Row}
    (hplace : ∀ k, row.place k = Predicate.bound params k) {stored : Record Json}
    (hfollows : Follows (row.extract (row.column parts)) (fieldValue stored)) :
    ∃ e, Sql.read (p.sql column) = some e ∧
      e.value row = (f.truth (fieldValue stored)).datum := by
  have hp := compiles_of_toPredicate hcompiled
  rw [← hp.truth (List.prefix_refl params) hfollows]
  exact Predicate.value_read_sql hcolumn hplace (fun _ => rfl) hp.joins

end Filter

/-! ## Over a stored text -/

namespace Stored

theorem fieldOfPath?_pathText (field : String) :
    fieldOfPath? (.text (Filter.pathText field)) = some field := by
  simp [fieldOfPath?, Filter.pathText]

/-- Paths lead to the fields of a text that is read as the values of a record. -/
theorem follows_extractAt {s : String} {stored : Record Json}
    (h : (read s).map (·.map fun m => (m.1, m.2.datum)) =
      .ok (stored.entries.map fun m => (m.1, .ofJson m.2))) :
    Filter.Follows (extractAt s) (Filter.fieldValue stored) := by
  intro field _
  obtain ⟨ms, hread, hvalues⟩ := map_eq_ok.1 h
  rw [extractAt, fieldOfPath?_pathText]
  show extract s field = _
  simp only [extract, hread]
  rw [← Record.lookup_map, hvalues, Record.lookup_map]
  rfl

end Stored

namespace Filter

/-- The row of an item whose fields are kept as a text. -/
def rowOfText (params : List Datum) (text : String) : Sql.Row where
  place := Predicate.bound params
  column _ := .text text
  extract document path :=
    match document with
    | .text s => Stored.extractAt s path
    | _ => .null
  holds _ := false

def nestedFilter : Filter :=
  .not (.or [.and [equals "done" (.bool true), .isNull "owner"], .compare "rank" .lt (.int 2),
    .compare "owner" .ne .null])

def nestedPredicate : Predicate :=
  .not (.or [.and [.compare 2 .eq 3, .isNull 4], .compare 5 .lt 6, .isNotNull 7])

def nestedParams : List Datum :=
  [.int 7, .text "$.\"done\"", .int 1, .text "$.\"owner\"", .text "$.\"rank\"", .int 2,
    .text "$.\"owner\""]

def rankedFields : Record Json := .ofList [("done", .bool false), ("rank", .int 3)]

/-- No term holds of the fields, which are not done, of rank three and without an owner. -/
theorem value_read_compiled_nestedFilter :
    nestedFilter.toPredicate [.int 7] = (.ok nestedPredicate, nestedParams) ∧
    nestedPredicate.sql "w.fields_json" =
      "NOT (((json_extract(w.fields_json, ?2) = ?3 AND " ++
        "json_extract(w.fields_json, ?4) IS NULL) OR json_extract(w.fields_json, ?5) < ?6 OR " ++
        "json_extract(w.fields_json, ?7) IS NOT NULL))" ∧
    ∃ e, Sql.read (nestedPredicate.sql "w.fields_json") = some e ∧
      e.value (rowOfText nestedParams (Json.ofRecord rankedFields).text) = .int 1 := by
  have hcompiled : nestedFilter.toPredicate [.int 7] = (.ok nestedPredicate, nestedParams) := rfl
  have hcolumn : Sql.NamesColumn "w.fields_json" ["w", "fields_json"] := by decide
  have hplace : ∀ k, (rowOfText nestedParams (Json.ofRecord rankedFields).text).place k =
      Predicate.bound nestedParams k := fun _ => rfl
  have hread : (Stored.read (Json.ofRecord rankedFields).text).map
      (·.map fun m => (m.1, m.2.datum)) =
      .ok (rankedFields.entries.map fun m => (m.1, .ofJson m.2)) := by decide +kernel
  obtain ⟨e, he, hvalue⟩ := value_read_compiled hcompiled hcolumn hplace
    (Stored.follows_extractAt hread)
  have htruth : nestedFilter.truth (fieldValue rankedFields) = .yes := by decide +kernel
  rw [htruth] at hvalue
  exact ⟨hcompiled, by decide +kernel, e, he, hvalue⟩

end Filter

end Backlog
