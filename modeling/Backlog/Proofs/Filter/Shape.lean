import Backlog.Proofs.Filter.Compile

/-!
# The text of a predicate tells nothing of names and literals

Two filters have the same *shape* if they are the same tree of connectives and operators, with
`null` at the same literals. What fields are called and what else they are compared with is left
open, and may be any text.

**Main statement (`sql_eq_of_sameShape`).** Filters of the same shape that both compile give the
same text, wherever their places begin to be counted. So a caller who chooses names and literals
chooses values of the list, and never a character of the text.

The proof follows both compilations at once. Each of them binds a value at the same points, so the
places that they take are the same, whatever is bound to them.
-/

namespace Backlog.Filter

/-! ## Shapes -/

mutual

/-- The same tree of connectives and operators, with `null` at the same literals. -/
inductive SameShape : Filter → Filter → Prop
  | all : SameShape .all .all
  | isNull (field field' : String) : SameShape (.isNull field) (.isNull field')
  | compare (field field' : String) (op : CompareOp) {value value' : Json}
      (null : value = .null ↔ value' = .null) :
      SameShape (.compare field op value) (.compare field' op value')
  | and {terms terms' : List Filter} (same : SameShapes terms terms') :
      SameShape (.and terms) (.and terms')
  | or {terms terms' : List Filter} (same : SameShapes terms terms') :
      SameShape (.or terms) (.or terms')
  | not {inner inner' : Filter} (same : SameShape inner inner') :
      SameShape (.not inner) (.not inner')

/-- As many terms, each of the same shape as the other at its place. -/
inductive SameShapes : List Filter → List Filter → Prop
  | nil : SameShapes [] []
  | cons {f g : Filter} {fs gs : List Filter} (first : SameShape f g) (rest : SameShapes fs gs) :
      SameShapes (f :: fs) (g :: gs)

end

/-! ## Two compilations at once -/

variable {before before' after after' : List Datum}

/-- Comparisons with one operator compile alike, if both or neither is with `null`. -/
theorem eq_of_comparesAs {field field' : String} {op : CompareOp} {value value' : Json}
    {p q : Predicate} (h : ComparesAs field before op value p after)
    (h' : ComparesAs field' before' op value' q after') (hnull : value = .null ↔ value' = .null)
    (hbefore : before.length = before'.length) : p = q ∧ after.length = after'.length := by
  cases h with
  | isNull =>
    cases h' with
    | isNull => simp [hbefore]
    | literal hd => exact absurd (hnull.1 rfl) (ne_null_of_literal hd)
  | isNotNull =>
    cases h' with
    | isNotNull => simp [hbefore]
    | literal hd => exact absurd (hnull.1 rfl) (ne_null_of_literal hd)
  | literal hd =>
    cases h' with
    | isNull | isNotNull => exact absurd (hnull.2 rfl) (ne_null_of_literal hd)
    | literal => simp [hbefore]

mutual

theorem SameShape.eq_of_yields {f g : Filter} (h : SameShape f g)
    {before before' after after' : List Datum} {p q : Predicate}
    (hf : Yields (compile f) before p after) (hg : Yields (compile g) before' q after')
    (hbefore : before.length = before'.length) : p = q ∧ after.length = after'.length := by
  match h with
  | .all =>
    obtain ⟨rfl, rfl⟩ := yields_pure.1 hf
    obtain ⟨rfl, rfl⟩ := yields_pure.1 hg
    exact ⟨rfl, hbefore⟩
  | .isNull field field' =>
    rw [compile] at hf hg
    obtain ⟨place, mid, hpath, hf⟩ := yields_bind.1 hf
    obtain ⟨place', mid', hpath', hg⟩ := yields_bind.1 hg
    obtain ⟨-, rfl, rfl⟩ := yields_bindField.1 hpath
    obtain ⟨-, rfl, rfl⟩ := yields_bindField.1 hpath'
    obtain ⟨rfl, rfl⟩ := yields_pure.1 hf
    obtain ⟨rfl, rfl⟩ := yields_pure.1 hg
    simp [hbefore]
  | .compare field field' op hnull =>
    obtain ⟨-, hp⟩ := yields_compare hf
    obtain ⟨-, hq⟩ := yields_compare hg
    exact eq_of_comparesAs hp hq hnull hbefore
  | .and .nil | .or .nil =>
    obtain ⟨rfl, rfl⟩ := yields_pure.1 hf
    obtain ⟨rfl, rfl⟩ := yields_pure.1 hg
    exact ⟨rfl, hbefore⟩
  | .and (.cons first rest) | .or (.cons first rest) =>
    rw [compile] at hf hg
    obtain ⟨ps, mid, hterms, hf⟩ := yields_bind.1 hf
    obtain ⟨qs, mid', hterms', hg⟩ := yields_bind.1 hg
    obtain ⟨rfl, rfl⟩ := yields_pure.1 hf
    obtain ⟨rfl, rfl⟩ := yields_pure.1 hg
    obtain ⟨rfl, hafter⟩ := (SameShapes.cons first rest).eq_of_yieldsTerms hterms hterms' hbefore
    exact ⟨rfl, hafter⟩
  | .not same =>
    rw [compile] at hf hg
    obtain ⟨p, mid, hinner, hf⟩ := yields_bind.1 hf
    obtain ⟨q, mid', hinner', hg⟩ := yields_bind.1 hg
    obtain ⟨rfl, rfl⟩ := yields_pure.1 hf
    obtain ⟨rfl, rfl⟩ := yields_pure.1 hg
    obtain ⟨rfl, hafter⟩ := same.eq_of_yields hinner hinner' hbefore
    exact ⟨rfl, hafter⟩

theorem SameShapes.eq_of_yieldsTerms {fs gs : List Filter} (h : SameShapes fs gs)
    {before before' after after' : List Datum} {ps qs : List Predicate}
    (hf : Yields (compileTerms fs) before ps after)
    (hg : Yields (compileTerms gs) before' qs after') (hbefore : before.length = before'.length) :
    ps = qs ∧ after.length = after'.length := by
  match h with
  | .nil =>
    obtain ⟨rfl, rfl⟩ := yields_pure.1 hf
    obtain ⟨rfl, rfl⟩ := yields_pure.1 hg
    exact ⟨rfl, hbefore⟩
  | .cons first rest =>
    rw [compileTerms] at hf hg
    obtain ⟨p, mid, hfirst, hf⟩ := yields_bind.1 hf
    obtain ⟨q, mid', hfirst', hg⟩ := yields_bind.1 hg
    obtain ⟨ps, _, hrest, hf⟩ := yields_bind.1 hf
    obtain ⟨qs, _, hrest', hg⟩ := yields_bind.1 hg
    obtain ⟨rfl, rfl⟩ := yields_pure.1 hf
    obtain ⟨rfl, rfl⟩ := yields_pure.1 hg
    -- The other terms begin to count where the first one ended, which is the same place.
    obtain ⟨rfl, hmid⟩ := first.eq_of_yields hfirst hfirst' hbefore
    obtain ⟨rfl, hafter⟩ := rest.eq_of_yieldsTerms hrest hrest' hmid
    exact ⟨rfl, hafter⟩

end

/-- **Names and literals leave the text as it is.** Filters of the same shape that compile, behind
as many bound values, give the same text and bind as many values. -/
theorem sql_eq_of_sameShape {f g : Filter} (h : SameShape f g) {p q : Predicate}
    (hf : f.toPredicate before = (.ok p, after)) (hg : g.toPredicate before' = (.ok q, after'))
    (hbefore : before.length = before'.length) (column : String) :
    p.sql column = q.sql column ∧ after.length = after'.length := by
  obtain ⟨rfl, hafter⟩ := h.eq_of_yields hf hg hbefore
  exact ⟨rfl, hafter⟩

/-- A filter with plain names and literals. -/
def plainFilter : Filter :=
  .and [equals "state" (.str "new"), .not (.isNull "owner"), .compare "rank" .lt (.int 2)]

/-- A filter of the same shape whose names and literals look like SQL. -/
def hostileFilter : Filter :=
  .and [equals "?1) OR (1 = 1" (.str "\x27; DROP TABLE work_items;"),
    .not (.isNull "\x27), 1) IS NULL) OR (1"), .compare "1" .lt (.bool true)]

theorem sql_eq_of_sameShape_hostileFilter : ∃ p q params params',
    plainFilter.toPredicate [.int 0] = (.ok p, params) ∧
      hostileFilter.toPredicate [.text "OR 1"] = (.ok q, params') ∧
      SameShape plainFilter hostileFilter ∧ params ≠ params' ∧
      p.sql "w.fields_json" = q.sql "w.fields_json" ∧
      q.sql "w.fields_json" = "(json_extract(w.fields_json, ?2) = ?3" ++
        " AND NOT (json_extract(w.fields_json, ?4) IS NULL)" ++
        " AND json_extract(w.fields_json, ?5) < ?6)" := by
  have hshape : SameShape plainFilter hostileFilter :=
    .and (.cons (.compare _ _ .eq (by simp)) (.cons (.not (.isNull _ _))
      (.cons (.compare _ _ .lt (by simp)) .nil)))
  have hplain : plainFilter.toPredicate [.int 0] = (.ok _, _) := rfl
  have hhostile : hostileFilter.toPredicate [.text "OR 1"] = (.ok _, _) := rfl
  exact ⟨_, _, _, _, hplain, hhostile, hshape, by decide,
    (sql_eq_of_sameShape hshape hplain hhostile rfl _).1, by decide +kernel⟩

end Backlog.Filter
