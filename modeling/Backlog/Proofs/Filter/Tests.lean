import Backlog.Proofs.Filter.Compile
import Backlog.Proofs.Json.RoundTrip
import Backlog.Proofs.Number.Rounding
import Backlog.Proofs.Sql.Marks

/-!
# What a filter binds, and what it is refused for

The tests of a filter are its comparisons and its tests for `null`, read from left to right.

**Main statement (`toPredicate_tests`).** A filter compiles exactly if each of its tests is accepted,
and is refused for the first one that is not. What it binds, behind the values that are bound
already, is what its tests bind one after the other; and the places that its text shows are those of
the values bound, each of them once and in their order.

Compiling one test is the step (`yields_test`, `refuses_test`), and a filter is the run of its tests
(`compile_accepted`, `compile_refused`).
-/

namespace Backlog

namespace Filter

/-! ## Tests -/

/-- A test of one field. -/
inductive Test
  | isNull (field : String)
  | compare (field : String) (op : CompareOp) (value : Json)

mutual

/-- The tests of a filter, from left to right. -/
def tests : Filter → List Test
  | all => []
  | isNull field => [.isNull field]
  | compare field op value => [.compare field op value]
  | and terms | or terms => testsOf terms
  | not inner => tests inner

def testsOf : List Filter → List Test
  | [] => []
  | f :: fs => tests f ++ testsOf fs

end

/-- The value that a literal is bound to, where it is a scalar. -/
def scalar? : Json → Option Datum
  | .null | .arr _ | .obj _ => none
  | .str s => some (.text s)
  | .bool b => some (.int (if b then 1 else 0))
  | .int n => some (if Decimal.IsInt64 n then .int n else .real (.rounded n))
  | .float x => some (.real x)

/-- Scalars can be compared in every way, and `null` only for being it or not. -/
def Comparable (op : CompareOp) : Json → Prop
  | .null => op = .eq ∨ op = .ne
  | .arr _ | .obj _ => False
  | _ => True

instance (op : CompareOp) : DecidablePred (Comparable op)
  | .null => inferInstanceAs (Decidable (op = .eq ∨ op = .ne))
  | .arr _ | .obj _ => .isFalse id
  | .bool _ | .int _ | .float _ | .str _ => .isTrue trivial

def nameReason (field : String) : String := "invalid field name '" ++ field ++ "'"

def literalReason (field : String) : Json → String
  | .null => "'" ++ field ++ "' can only be compared to null with = or !="
  | _ => "'" ++ field ++ "' must be compared to a scalar"

namespace Test

def filter : Test → Filter
  | isNull field => .isNull field
  | compare field op value => .compare field op value

def Accepted : Test → Prop
  | isNull field => IsFieldName field
  | compare field op value => IsFieldName field ∧ Comparable op value

instance : DecidablePred Accepted
  | isNull field => inferInstanceAs (Decidable (IsFieldName field))
  | compare field op value => inferInstanceAs (Decidable (IsFieldName field ∧ Comparable op value))

/-- Why a test is refused. The name of the field is looked at first. -/
def reason : Test → String
  | isNull field => nameReason field
  | compare field _ value =>
    if IsFieldName field then literalReason field value else nameReason field

/-- What a test binds: the path of its field, and the literal behind it. -/
def values : Test → List Datum
  | isNull field => [.text (pathText field)]
  | compare field _ value => .text (pathText field) :: (scalar? value).toList

/-- Integers in a test have 64 bits, with a sign or without one. -/
def Printable : Test → Prop
  | isNull _ => True
  | compare _ _ value => value.Printable

end Test

/-- The first test that is refused. -/
def refused? (ts : List Test) : Option Test := ts.find? fun t => ¬ t.Accepted

theorem refused?_append (ts us : List Test) :
    refused? (ts ++ us) = (refused? ts).or (refused? us) := List.find?_append

theorem refused?_eq_none {ts : List Test} : refused? ts = none ↔ ∀ t ∈ ts, t.Accepted := by
  simp [refused?]

theorem refused?_singleton {t u : Test} : refused? [t] = some u ↔ ¬ t.Accepted ∧ t = u := by
  simp [refused?]

theorem refused?_eq_some {ts : List Test} {t : Test} : refused? ts = some t ↔
    ¬ t.Accepted ∧ ∃ done later, ts = done ++ t :: later ∧ ∀ u ∈ done, u.Accepted := by
  simp [refused?, List.find?_eq_some_iff_append]

/-! ## Refusal -/

section Refusal

variable {α β : Type} {x : Binder α} {g : α → Binder β} {e : Error} {before : List Datum}

/-- Something was refused, with these values bound before. -/
def Refuses (x : Binder α) (before : List Datum) (e : Error) : Prop :=
  ∃ after, x.run.run before = (.error e, after)

theorem refuses_bind : Refuses (x >>= g) before e ↔
    Refuses x before e ∨ ∃ a mid, Yields x before a mid ∧ Refuses (g a) mid e := by
  simp only [Refuses, run_bind_eq_error, exists_or]
  refine or_congr Iff.rfl ?_
  constructor
  · intro h
    obtain ⟨after, a, mid, hx, hg⟩ := h
    exact ⟨a, mid, hx, after, hg⟩
  · intro h
    obtain ⟨a, mid, hx, after, hg⟩ := h
    exact ⟨after, a, mid, hx, hg⟩

theorem refuses_throw : Refuses (throw e : Binder α) before e := ⟨before, rfl⟩

theorem refuses_bindField {field : String} (h : ¬ IsFieldName field) :
    Refuses (bindField field) before (.badParameter "filter" (nameReason field)) := by
  have hname : (field.isEmpty || field.toList.contains '"') = true := by
    simpa [IsFieldName, String.isEmpty_iff, or_iff_not_imp_left] using h
  rw [bindField, if_pos hname]
  exact refuses_bind.2 (.inl refuses_throw)

end Refusal

/-! ## One test -/

variable {before : List Datum} {field : String} {op : CompareOp} {value : Json} {t : Test}

/-- The places of values that are bound behind others. -/
def placesAfter (before values : List Datum) : List Nat :=
  List.range' (before.length + 1) values.length

theorem placesAfter_append (before values more : List Datum) :
    placesAfter before (values ++ more) =
      placesAfter before values ++ placesAfter (before ++ values) more := by
  simp only [placesAfter, List.length_append, ← List.range'_append_1]
  rw [Nat.add_right_comm]

theorem literal_of_scalar {d : Datum} (hprintable : value.Printable)
    (hscalar : scalar? value = some d) : literal field value = .ok d := by
  cases value with
  | null => cases hscalar
  | arr xs => cases hscalar
  | obj ms => cases hscalar
  | bool b => exact congrArg Except.ok (Option.some.inj hscalar)
  | float x => exact congrArg Except.ok (Option.some.inj hscalar)
  | str s => exact congrArg Except.ok (Option.some.inj hscalar)
  | int n =>
    obtain ⟨hlow, hhigh⟩ := hprintable
    rw [literal, Binary64.ofInt?_eq_rounded hlow hhigh, ← Option.some.inj hscalar]
    split <;> rfl

theorem literal_of_not_comparable (h : ¬ Comparable op value) :
    literal field value = .error (.badParameter "filter" (literalReason field value)) := by
  cases value with
  | null => rfl
  | arr xs => rfl
  | obj ms => rfl
  | _ => exact absurd trivial h

/-- Only a test for `null` in the form of a comparison binds no literal. -/
theorem compile_compare (h : value = .null → ¬ Comparable op value) :
    compile (.compare field op value) = (do
      let path ← bindField field
      return .compare path op (← bind (← literal field value))) := by
  rw [compile]
  refine congrArg (bindField field >>= ·) (funext fun path => ?_)
  split
  next => exact absurd (.inl rfl) (h rfl)
  next => exact absurd (.inr rfl) (h rfl)
  next => rfl

theorem yields_path (hfield : IsFieldName field) :
    Yields (bindField field) before (before.length + 1) (before ++ [.text (pathText field)]) :=
  yields_bindField.2 ⟨hfield, rfl, rfl⟩

theorem yields_compare_of_scalar {d : Datum} (hprintable : value.Printable)
    (hfield : IsFieldName field) (hscalar : scalar? value = some d) :
    Yields (compile (.compare field op value)) before
      (.compare (before.length + 1) op (before.length + 2))
      (before ++ [.text (pathText field), d]) := by
  have hnull : value ≠ .null := by
    rintro rfl
    cases hscalar
  rw [compile_compare fun h => absurd h hnull]
  refine yields_bind.2 ⟨_, _, yields_path hfield, ?_⟩
  refine yields_bind.2 ⟨d, _, yields_result.2 ⟨literal_of_scalar hprintable hscalar, rfl⟩, ?_⟩
  refine yields_bind.2 ⟨_, _, yields_place.2 ⟨rfl, rfl⟩, ?_⟩
  simp [yields_pure]

/-- **An accepted test** binds its values, and names the places of them. -/
theorem yields_test (hprintable : t.Printable) (ht : t.Accepted) :
    ∃ p, Yields (compile t.filter) before p (before ++ t.values) ∧
      p.places = placesAfter before t.values := by
  cases t with
  | isNull field =>
    exact ⟨_, yields_bind.2 ⟨_, _, yields_path ht, yields_pure.2 ⟨rfl, rfl⟩⟩, rfl⟩
  | compare field op value =>
    obtain ⟨hfield, hvalue⟩ := ht
    rw [Test.filter, Test.values]
    cases hscalar : scalar? value with
    | some d => exact ⟨_, yields_compare_of_scalar hprintable hfield hscalar, rfl⟩
    | none =>
      cases value with
      | null =>
        rcases hvalue with rfl | rfl
        · exact ⟨_, yields_bind.2 ⟨_, _, yields_path hfield, yields_pure.2 ⟨rfl, rfl⟩⟩, rfl⟩
        · exact ⟨_, yields_bind.2 ⟨_, _, yields_path hfield, yields_pure.2 ⟨rfl, rfl⟩⟩, rfl⟩
      | arr xs => exact hvalue.elim
      | obj ms => exact hvalue.elim
      | _ => cases hscalar

/-- **A test that is not accepted** is refused, whatever is bound before it. -/
theorem refuses_test (ht : ¬ t.Accepted) :
    Refuses (compile t.filter) before (.badParameter "filter" t.reason) := by
  cases t with
  | isNull field => exact refuses_bind.2 (.inl (refuses_bindField ht))
  | compare field op value =>
    rw [Test.filter, Test.reason]
    by_cases hfield : IsFieldName field
    · have hvalue : ¬ Comparable op value := fun hvalue => ht ⟨hfield, hvalue⟩
      rw [if_pos hfield, compile_compare fun _ => hvalue, literal_of_not_comparable hvalue]
      exact refuses_bind.2 (.inr ⟨_, _, yields_path hfield, refuses_bind.2 (.inl refuses_throw)⟩)
    · rw [if_neg hfield, compile]
      exact refuses_bind.2 (.inl (refuses_bindField hfield))

/-! ## All tests -/

mutual

/-- **A filter without a test that is refused** binds the values of its tests one after the other,
and names the places of them. -/
theorem compile_accepted (f : Filter) (before : List Datum)
    (hprintable : ∀ t ∈ f.tests, t.Printable) (hnone : refused? f.tests = none) :
    ∃ p, Yields (compile f) before p (before ++ f.tests.flatMap Test.values) ∧
      p.places = placesAfter before (f.tests.flatMap Test.values) := by
  match f with
  | all =>
    rw [tests, List.flatMap_nil, List.append_nil]
    exact ⟨_, yields_pure.2 ⟨rfl, rfl⟩, rfl⟩
  | isNull field =>
    rw [tests, List.flatMap_singleton]
    exact yields_test (t := .isNull field) trivial (refused?_eq_none.1 hnone _ List.mem_cons_self)
  | compare field op value =>
    rw [tests, List.flatMap_singleton]
    exact yields_test (hprintable _ List.mem_cons_self)
      (refused?_eq_none.1 hnone _ List.mem_cons_self)
  | and [] =>
    rw [tests, testsOf, List.flatMap_nil, List.append_nil]
    exact ⟨_, yields_pure.2 ⟨rfl, rfl⟩, rfl⟩
  | and (f :: fs) =>
    obtain ⟨ps, hps, hplaces⟩ := compileTerms_accepted (f :: fs) before hprintable hnone
    exact ⟨_, yields_bind.2 ⟨ps, _, hps, yields_pure.2 ⟨rfl, rfl⟩⟩, hplaces⟩
  | or [] =>
    rw [tests, testsOf, List.flatMap_nil, List.append_nil]
    exact ⟨_, yields_pure.2 ⟨rfl, rfl⟩, rfl⟩
  | or (f :: fs) =>
    obtain ⟨ps, hps, hplaces⟩ := compileTerms_accepted (f :: fs) before hprintable hnone
    exact ⟨_, yields_bind.2 ⟨ps, _, hps, yields_pure.2 ⟨rfl, rfl⟩⟩, hplaces⟩
  | not inner =>
    obtain ⟨p, hp, hplaces⟩ := compile_accepted inner before hprintable hnone
    exact ⟨_, yields_bind.2 ⟨p, _, hp, yields_pure.2 ⟨rfl, rfl⟩⟩, hplaces⟩

theorem compileTerms_accepted (fs : List Filter) (before : List Datum)
    (hprintable : ∀ t ∈ testsOf fs, t.Printable) (hnone : refused? (testsOf fs) = none) :
    ∃ ps, Yields (compileTerms fs) before ps (before ++ (testsOf fs).flatMap Test.values) ∧
      Predicate.placesOf ps = placesAfter before ((testsOf fs).flatMap Test.values) := by
  match fs with
  | [] =>
    rw [testsOf, List.flatMap_nil, List.append_nil]
    exact ⟨_, yields_pure.2 ⟨rfl, rfl⟩, rfl⟩
  | f :: fs =>
    rw [testsOf] at hprintable hnone ⊢
    rw [List.forall_mem_append] at hprintable
    rw [refused?_append, Option.or_eq_none_iff] at hnone
    obtain ⟨p, hp, hplaces⟩ := compile_accepted f before hprintable.1 hnone.1
    obtain ⟨ps, hps, hrest⟩ := compileTerms_accepted fs
      (before ++ f.tests.flatMap Test.values) hprintable.2 hnone.2
    refine ⟨p :: ps, ?_, ?_⟩
    · rw [compileTerms, List.flatMap_append, ← List.append_assoc]
      exact yields_bind.2 ⟨p, _, hp, yields_bind.2 ⟨ps, _, hps, yields_pure.2 ⟨rfl, rfl⟩⟩⟩
    · rw [Predicate.placesOf, hplaces, hrest, List.flatMap_append, placesAfter_append]

end

mutual

/-- **A filter is refused** for the first of its tests that is not accepted. -/
theorem compile_refused (f : Filter) (before : List Datum) {t : Test}
    (hprintable : ∀ t ∈ f.tests, t.Printable) (hsome : refused? f.tests = some t) :
    Refuses (compile f) before (.badParameter "filter" t.reason) := by
  match f with
  | all => cases hsome
  | isNull field =>
    obtain ⟨ht, rfl⟩ := refused?_singleton.1 hsome
    exact refuses_test ht
  | compare field op value =>
    obtain ⟨ht, rfl⟩ := refused?_singleton.1 hsome
    exact refuses_test ht
  | and [] => cases hsome
  | and (f :: fs) =>
    exact refuses_bind.2 (.inl (compileTerms_refused (f :: fs) before hprintable hsome))
  | or [] => cases hsome
  | or (f :: fs) =>
    exact refuses_bind.2 (.inl (compileTerms_refused (f :: fs) before hprintable hsome))
  | not inner => exact refuses_bind.2 (.inl (compile_refused inner before hprintable hsome))

theorem compileTerms_refused (fs : List Filter) (before : List Datum) {t : Test}
    (hprintable : ∀ t ∈ testsOf fs, t.Printable) (hsome : refused? (testsOf fs) = some t) :
    Refuses (compileTerms fs) before (.badParameter "filter" t.reason) := by
  match fs with
  | [] => cases hsome
  | f :: fs =>
    rw [testsOf] at hprintable hsome
    rw [List.forall_mem_append] at hprintable
    rw [refused?_append, Option.or_eq_some_iff] at hsome
    rw [compileTerms, refuses_bind]
    obtain hfirst | ⟨hnone, hrest⟩ := hsome
    · exact .inl (compile_refused f before hprintable.1 hfirst)
    · -- The terms before bind their values, and the refusal comes after them.
      obtain ⟨p, hp, -⟩ := compile_accepted f before hprintable.1 hnone
      exact .inr ⟨p, _, hp, refuses_bind.2 (.inl (compileTerms_refused fs _ hprintable.2 hrest))⟩

end

/-- **What a filter compiles to.** It compiles exactly if each of its tests is accepted, and else it
is refused for the first that is not. Behind the values bound already stand those of its tests, and
the question marks of its text number these one by one. -/
theorem toPredicate_tests {f : Filter} {column : String}
    (hprintable : ∀ t ∈ f.tests, t.Printable) (hcolumn : '?' ∉ column.toList)
    (before : List Datum) :
    ((∃ p after, f.toPredicate before = (.ok p, after)) ↔ ∀ t ∈ f.tests, t.Accepted) ∧
    (∀ e after, f.toPredicate before = (.error e, after) →
      ∃ done t later, f.tests = done ++ t :: later ∧ (∀ u ∈ done, u.Accepted) ∧ ¬ t.Accepted ∧
        e = .badParameter "filter" t.reason) ∧
    (∀ p after, f.toPredicate before = (.ok p, after) →
      after = before ++ f.tests.flatMap Test.values ∧
      Sql.marks (p.sql column).toList =
        (placesAfter before (f.tests.flatMap Test.values)).map Sql.mark) := by
  cases hrefused : refused? f.tests with
  | none =>
    obtain ⟨p, hp, hplaces⟩ := compile_accepted f before hprintable hrefused
    have hresult : f.toPredicate before = (.ok p, before ++ f.tests.flatMap Test.values) := hp
    rw [hresult]
    refine ⟨iff_of_true ⟨p, _, rfl⟩ (refused?_eq_none.1 hrefused), ?_, ?_⟩
    · intro e after h
      cases h
    · intro p' after h
      cases h
      exact ⟨rfl, by rw [Predicate.marks_sql hcolumn, hplaces]⟩
  | some t =>
    obtain ⟨after, hafter⟩ := compile_refused f before hprintable hrefused
    have hresult : f.toPredicate before = (.error (.badParameter "filter" t.reason), after) := hafter
    obtain ⟨ht, done, later, htests, hdone⟩ := refused?_eq_some.1 hrefused
    rw [hresult]
    refine ⟨iff_of_false ?_ ?_, ?_, ?_⟩
    · intro h
      obtain ⟨p, after', h⟩ := h
      cases h
    · intro h
      exact ht (h t (htests ▸ List.mem_append_right _ List.mem_cons_self))
    · intro e after' h
      cases h
      exact ⟨done, t, later, htests, hdone, ht, rfl⟩
    · intro p after' h
      cases h

/-- An integer beyond those with a sign, a test for `null` and one that is negated, behind a value
that is bound already. -/
theorem toPredicate_tests_nested : ∃ p after,
    toPredicate (.and [.compare "estimate" .lt (.int 18446744073709551615),
      .not (.or [.isNull "owner", .compare "done" .ne .null])]) [.int 7] = (.ok p, after) ∧
    after = [.int 7, .text "$.\"estimate\"", .real (.rounded 18446744073709551615),
      .text "$.\"owner\"", .text "$.\"done\""] ∧
    Sql.marks (p.sql "w.fields_json").toList =
      ["?2".toList, "?3".toList, "?4".toList, "?5".toList] := by
  have hcolumn : '?' ∉ "w.fields_json".toList := by decide
  obtain ⟨haccepted, -, hok⟩ := toPredicate_tests
    (f := .and [.compare "estimate" .lt (.int 18446744073709551615),
      .not (.or [.isNull "owner", .compare "done" .ne .null])])
    (by simp [tests, testsOf, Test.Printable, Json.Printable]) hcolumn [.int 7]
  obtain ⟨p, after, hp⟩ := haccepted.2 (by decide)
  obtain ⟨hafter, hmarks⟩ := hok p after hp
  exact ⟨p, after, hp, hafter, hmarks⟩

end Filter

end Backlog
