import Backlog.Filter.Encoding
import Backlog.Proofs.Result
import Mathlib.Data.List.Nodup

/-!
# Filters come back from their encoding

A filter is encoded by form: a word, or an object with one member that is named for the form. What
the member carries is a text, an object, a list of filters or one filter, and the literal of a
comparison may be any value, objects of the same look included.

**Main statement (`encoding_faithful`).** Decoding the encoding of a filter gives the filter, so no
two filters are encoded alike. In particular filters that select the same items, such as the one
that selects all and the conjunction of nothing, stay apart.

The induction goes over filters and lists of filters at once. It never looks into a literal, which
is encoded as itself.
-/

namespace Backlog

theorem CompareOp.fromJson_toJson (op : CompareOp) :
    CompareOp.decoder.fromJson op.toJson = .ok op := by
  cases op <;> rfl

namespace Filter

/-! ## Comparisons -/

theorem fromObject_comparison (field : String) (op : CompareOp) (value : Json) :
    comparisonLayout.fromObject [("field", .str field), ("op", op.toJson), ("value", value)] =
      .ok (.compare field op value) := by
  have hsorted : (([("field", .str field), ("op", op.toJson), ("value", value)] :
      List (String × Json)).map Prod.fst).Pairwise (· < ·) := by
    show ["field", "op", "value"].Pairwise (· < ·)
    decide
  rw [Json.Layout.fromObject, Record.entries_ofList hsorted]
  cases op <;> rfl

/-! ## All filters -/

mutual

/-- What a filter is encoded as is decoded to the filter. -/
theorem fromJson_toJson (f : Filter) : fromJson f.toJson = .ok f := by
  match f with
  | all => rfl
  | compare field op value =>
    rw [toJson, fromJson.eq_def]
    exact fromObject_comparison field op value
  | isNull field =>
    rw [toJson, fromJson.eq_def]
    rfl
  | and terms =>
    have hterms := fromJsonTerms_toJsonTerms terms
    rw [toJson, fromJson.eq_def]
    show (fromJsonTerms (toJsonTerms terms)).map and = _
    rw [hterms]
    rfl
  | or terms =>
    have hterms := fromJsonTerms_toJsonTerms terms
    rw [toJson, fromJson.eq_def]
    show (fromJsonTerms (toJsonTerms terms)).map or = _
    rw [hterms]
    rfl
  | not inner =>
    have hinner := fromJson_toJson inner
    rw [toJson, fromJson.eq_def]
    show (fromJson inner.toJson).map not = _
    rw [hinner]
    rfl

theorem fromJsonTerms_toJsonTerms (fs : List Filter) :
    fromJsonTerms (toJsonTerms fs) = .ok fs := by
  match fs with
  | [] => rfl
  | f :: fs =>
    rw [toJsonTerms, fromJsonTerms, fromJson_toJson f, ok_bind, fromJsonTerms_toJsonTerms fs]
    rfl

end

/-- Different filters are encoded differently. -/
theorem toJson_injective : Function.Injective toJson := by
  intro f g h
  have hsame := fromJson_toJson f
  rw [h, fromJson_toJson g] at hsame
  exact (Except.ok.inj hsame).symm

/-- **A filter comes back from its encoding**, whatever its depth and its literals are, so its
encoding says all of it. The filter of everything, the conjunction and the disjunction of nothing,
a test for `null` and the two comparisons with `null` are encoded differently. -/
theorem encoding_faithful :
    (∀ f : Filter, fromJson f.toJson = .ok f) ∧ Function.Injective toJson ∧
    ∀ field field' field'' : String,
      ([all, and [], or [], isNull field, compare field' .eq .null,
        compare field'' .ne .null].map toJson).Nodup := by
  refine ⟨fromJson_toJson, toJson_injective, fun field field' field'' => ?_⟩
  exact List.Nodup.map toJson_injective (by simp)

end Filter

end Backlog
