import Backlog.Filter.Predicate
import Backlog.Proofs.Result
import Backlog.Proofs.Sql.Predicate

/-!
# Compiled filters keep their meaning

**Main statement (`compiles_of_toPredicate`).** The predicate that a filter compiles to has the
truth of the filter, over any row in which the paths of fields lead to the stored values.

**Places.** Compiling only appends to the values that are bound (`Compiles.appends`), so a place
keeps the value it was taken for, whatever is bound later.
-/

namespace Backlog.Filter

open Predicate (AllJoin bound)

variable {before mid after params : List Datum} {place : Nat}

/-- The names that a path can hold between its quotes. -/
def IsFieldName (field : String) : Prop := field ≠ "" ∧ '"' ∉ field.toList

instance : DecidablePred IsFieldName :=
  fun field => inferInstanceAs (Decidable (field ≠ "" ∧ '"' ∉ field.toList))

/-- The paths of fields lead to their stored values. -/
def Follows (extract : Datum → Datum) (stored : String → Datum) : Prop :=
  ∀ field, IsFieldName field → extract (.text (pathText field)) = stored field

/-! ## Binding -/

section Binding

variable {α β : Type}

/-- Nothing was refused, and these values were bound before and are after. -/
def Yields (x : Binder α) (before : List Datum) (a : α) (after : List Datum) : Prop :=
  x.run.run before = (.ok a, after)

theorem yields_bind {x : Binder α} {g : α → Binder β} {b : β} :
    Yields (x >>= g) before b after ↔
      ∃ a mid, Yields x before a mid ∧ Yields (g a) mid b after :=
  run_bind_eq_ok

theorem yields_pure {a b : α} :
    Yields (pure a) before b after ↔ a = b ∧ before = after := by
  show ((Except.ok a, before) : Except Error α × List Datum) = _ ↔ _
  simp

theorem not_yields_throw {e : Error} {a : α} : ¬ Yields (throw e) before a after := by
  intro h
  cases h

theorem yields_result {r : Except Error α} {a : α} :
    Yields (liftM r) before a after ↔ r = .ok a ∧ before = after := by
  show ((r, before) : Except Error α × List Datum) = _ ↔ _
  simp

theorem yields_place {d : Datum} :
    Yields (bind d) before place after ↔ place = before.length + 1 ∧ after = before ++ [d] := by
  show ((Except.ok (before ++ [d]).length, before ++ [d]) : Except Error Nat × List Datum) = _ ↔ _
  rw [List.length_append, List.length_singleton]
  simp [eq_comm]

theorem yields_bindField {field : String} : Yields (bindField field) before place after ↔
    IsFieldName field ∧ place = before.length + 1 ∧ after = before ++ [.text (pathText field)] := by
  have hname : IsFieldName field ↔ ¬ (field.isEmpty || field.toList.contains '"') = true := by
    simp [IsFieldName, String.isEmpty_iff]
  rw [bindField, hname]
  by_cases h : (field.isEmpty || field.toList.contains '"') = true
  · rw [if_pos h]
    constructor
    · intro hyields
      exact absurd hyields not_yields_throw
    · intro hfield
      exact absurd h hfield.1
  · rw [if_neg h]
    constructor
    · intro hyields
      exact ⟨h, yields_place.1 hyields⟩
    · intro hfield
      exact yields_place.2 hfield.2

/-- A place has its value in every list that goes on from where it was taken. -/
theorem bound_of_prefix {d : Datum} (h : before ++ [d] <+: params) :
    bound params (before.length + 1) = d := by
  obtain ⟨more, rfl⟩ := h
  simp [bound]

end Binding

/-! ## Comparisons -/

section Comparison

variable {field : String} {op : CompareOp} {value : Json} {p : Predicate}

/-- A comparison with `null` is a test, and any other one binds its literal behind its path. -/
inductive ComparesAs (field : String) (before : List Datum) :
    CompareOp → Json → Predicate → List Datum → Prop
  | isNull : ComparesAs field before .eq .null (.isNull (before.length + 1))
      (before ++ [.text (pathText field)])
  | isNotNull : ComparesAs field before .ne .null (.isNotNull (before.length + 1))
      (before ++ [.text (pathText field)])
  | literal {op : CompareOp} {value : Json} {d : Datum} (h : literal field value = .ok d) :
      ComparesAs field before op value (.compare (before.length + 1) op (before.length + 2))
        (before ++ [.text (pathText field)] ++ [d])

theorem yields_compare (h : Yields (compile (.compare field op value)) before p after) :
    IsFieldName field ∧ ComparesAs field before op value p after := by
  rw [compile] at h
  obtain ⟨place, mid, hpath, h⟩ := yields_bind.1 h
  obtain ⟨hfield, rfl, rfl⟩ := yields_bindField.1 hpath
  refine ⟨hfield, ?_⟩
  split at h
  · obtain ⟨rfl, rfl⟩ := yields_pure.1 h
    exact .isNull
  · obtain ⟨rfl, rfl⟩ := yields_pure.1 h
    exact .isNotNull
  · obtain ⟨d, _, hresult, h⟩ := yields_bind.1 h
    obtain ⟨hliteral, rfl⟩ := yields_result.1 hresult
    obtain ⟨_, _, hplace, h⟩ := yields_bind.1 h
    obtain ⟨rfl, rfl⟩ := yields_place.1 hplace
    obtain ⟨rfl, rfl⟩ := yields_pure.1 h
    rw [List.length_append, List.length_singleton]
    exact .literal hliteral

theorem ne_null_of_literal {d : Datum} (h : literal field value = .ok d) : value ≠ .null := by
  intro hvalue
  rw [hvalue] at h
  cases h

theorem truth_compare {stored : String → Datum} {d : Datum} (h : literal field value = .ok d) :
    truth stored (.compare field op value) = Sql.compareTruth op (stored field) d := by
  have hnull := ne_null_of_literal h
  rw [truth, h]
  · rfl
  · intro hvalue
    exact absurd hvalue hnull
  · intro hvalue
    exact absurd hvalue hnull

end Comparison

/-! ## Whole filters -/

/-- The predicate has the truth of the filter in every list that goes on from the values that are
bound after it. -/
structure Compiles (f : Filter) (before : List Datum) (p : Predicate) (after : List Datum) :
    Prop where
  appends : before <+: after
  joins : p.Joins
  truth : ∀ {params extract stored}, after <+: params → Follows extract stored →
    p.truth params extract = f.truth stored

structure CompilesTerms (fs : List Filter) (before : List Datum) (ps : List Predicate)
    (after : List Datum) : Prop where
  appends : before <+: after
  joins : AllJoin ps
  nonempty : fs ≠ [] → ps ≠ []
  truths : ∀ {params extract stored}, after <+: params → Follows extract stored →
    Predicate.truths params extract ps = Filter.truths stored fs

theorem compiles_of_comparesAs {field : String} {op : CompareOp} {value : Json} {p : Predicate}
    (hfield : IsFieldName field) (h : ComparesAs field before op value p after) :
    Compiles (.compare field op value) before p after := by
  cases h with
  | isNull =>
    refine ⟨List.prefix_append _ _, trivial, fun hparams hfollows => ?_⟩
    rw [Predicate.truth, bound_of_prefix hparams, hfollows field hfield, truth]
  | isNotNull =>
    refine ⟨List.prefix_append _ _, trivial, fun hparams hfollows => ?_⟩
    rw [Predicate.truth, bound_of_prefix hparams, hfollows field hfield, truth]
  | literal hliteral =>
    refine ⟨?_, trivial, fun hparams hfollows => ?_⟩
    · rw [List.append_assoc]
      exact List.prefix_append _ _
    · -- The path was bound first, and the literal behind it does not move it.
      have hpath := bound_of_prefix ((List.prefix_append _ _).trans hparams)
      have hvalue := bound_of_prefix hparams
      rw [List.length_append, List.length_singleton] at hvalue
      rw [truth_compare hliteral, Predicate.truth, hpath, hvalue, hfollows field hfield]
      rfl

mutual

theorem compiles_of_yields (f : Filter) {before after : List Datum} {p : Predicate}
    (h : Yields (compile f) before p after) : Compiles f before p after := by
  match f with
  | all =>
    obtain ⟨rfl, rfl⟩ := yields_pure.1 h
    exact ⟨List.prefix_refl _, trivial, fun _ _ => rfl⟩
  | isNull field =>
    rw [compile] at h
    obtain ⟨place, mid, hpath, h⟩ := yields_bind.1 h
    obtain ⟨hfield, rfl, rfl⟩ := yields_bindField.1 hpath
    obtain ⟨rfl, rfl⟩ := yields_pure.1 h
    refine ⟨List.prefix_append _ _, trivial, fun hparams hfollows => ?_⟩
    rw [Predicate.truth, bound_of_prefix hparams, hfollows field hfield, truth]
  | compare field op value =>
    obtain ⟨hfield, hcomparison⟩ := yields_compare h
    exact compiles_of_comparesAs hfield hcomparison
  | and [] =>
    obtain ⟨rfl, rfl⟩ := yields_pure.1 h
    exact ⟨List.prefix_refl _, trivial, fun _ _ => rfl⟩
  | and (f :: fs) =>
    rw [compile] at h
    obtain ⟨ps, mid, hterms, h⟩ := yields_bind.1 h
    obtain ⟨rfl, rfl⟩ := yields_pure.1 h
    have hps := compilesTerms_of_yields (f :: fs) hterms
    refine ⟨hps.appends, ⟨hps.nonempty (by simp), hps.joins⟩, fun hparams hfollows => ?_⟩
    rw [Predicate.truth, hps.truths hparams hfollows, truth]
  | or [] =>
    obtain ⟨rfl, rfl⟩ := yields_pure.1 h
    exact ⟨List.prefix_refl _, trivial, fun _ _ => rfl⟩
  | or (f :: fs) =>
    rw [compile] at h
    obtain ⟨ps, mid, hterms, h⟩ := yields_bind.1 h
    obtain ⟨rfl, rfl⟩ := yields_pure.1 h
    have hps := compilesTerms_of_yields (f :: fs) hterms
    refine ⟨hps.appends, ⟨hps.nonempty (by simp), hps.joins⟩, fun hparams hfollows => ?_⟩
    rw [Predicate.truth, hps.truths hparams hfollows, truth]
  | not inner =>
    rw [compile] at h
    obtain ⟨q, mid, hinner, h⟩ := yields_bind.1 h
    obtain ⟨rfl, rfl⟩ := yields_pure.1 h
    have hq := compiles_of_yields inner hinner
    refine ⟨hq.appends, hq.joins, fun hparams hfollows => ?_⟩
    rw [Predicate.truth, hq.truth hparams hfollows, truth]

theorem compilesTerms_of_yields (fs : List Filter) {before after : List Datum}
    {ps : List Predicate} (h : Yields (compileTerms fs) before ps after) :
    CompilesTerms fs before ps after := by
  match fs with
  | [] =>
    obtain ⟨rfl, rfl⟩ := yields_pure.1 h
    exact ⟨List.prefix_refl _, trivial, fun hne => absurd rfl hne, fun _ _ => rfl⟩
  | f :: fs =>
    rw [compileTerms] at h
    obtain ⟨p, mid, hfirst, h⟩ := yields_bind.1 h
    obtain ⟨ps, _, hrest, h⟩ := yields_bind.1 h
    obtain ⟨rfl, rfl⟩ := yields_pure.1 h
    have hp := compiles_of_yields f hfirst
    have hps := compilesTerms_of_yields fs hrest
    -- What the first term bound is still there after the other ones.
    refine ⟨hp.appends.trans hps.appends, ⟨hp.joins, hps.joins⟩, fun _ => by simp,
      fun hparams hfollows => ?_⟩
    rw [Predicate.truths, hp.truth (hps.appends.trans hparams) hfollows,
      hps.truths hparams hfollows, truths]

end

theorem compiles_of_toPredicate {f : Filter} {p : Predicate}
    (h : f.toPredicate before = (.ok p, after)) : Compiles f before p after :=
  compiles_of_yields f h

end Backlog.Filter
