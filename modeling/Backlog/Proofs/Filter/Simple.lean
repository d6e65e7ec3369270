import Backlog.Proofs.Filter.Decision
import Backlog.Proofs.Filter.Tests
import Backlog.Proofs.Json.WellRead

/-!
# Filters in their simple form

A text in the simple form is an object of fields and the values that they equal. None, one and many
members are put together in three ways: no test at all, a bare test, and a list of tests between
brackets. A member whose value is `null` is a test for `null`, and any other one a comparison.

**What the ways have in common.** The filter compiles exactly if each of its members can be tested
(`toPredicate_ofMembers_iff`), and its predicate is found true exactly if each member is
(`decides_ofMembers`). A field at which nothing can be looked is not found true.

**Reading** (`ofText_eq_ok`). Every object gives a filter, and nothing else does.
-/

namespace Backlog

/-- Neither a list nor an object. -/
def Json.Flat : Json → Prop
  | .arr _ | .obj _ => False
  | _ => True

instance : DecidablePred Json.Flat
  | .arr _ | .obj _ => .isFalse id
  | .null | .bool _ | .int _ | .float _ | .str _ => .isTrue trivial

namespace Filter

open Predicate (decidesTerms decidesAt bound)

/-- The filter of an object: each field equals the value of its member. -/
def ofMembers (ms : Record Json) : Filter :=
  conjunction (ms.entries.map fun e => equals e.1 e.2)

/-! ## Reading -/

variable {text : String} {f : Filter} {e : Error}

/-- **The texts of filters** in their simple form are those of objects. -/
theorem ofText_eq_ok :
    ofText text = .ok f ↔ ∃ ms, Json.parse text = .ok (.ofRecord ms) ∧ f = ofMembers ms := by
  rw [ofText]
  apply Iff.intro
  · intro h
    split at h
    · cases h
    next v hv =>
      cases v with
      | obj ms =>
        have hsorted := (Json.wellFormed_of_parse hv).1
        refine ⟨⟨ms, hsorted⟩, hv, ?_⟩
        rw [← Except.ok.inj h, ofMembers, Record.entries_ofList hsorted]
      | _ => cases h
  · rintro ⟨ms, hparse, rfl⟩
    rw [hparse]
    show Except.ok (ofMembers (Record.ofList ms.entries)) = _
    rw [Record.ofList_entries]

theorem ofText_eq_error (h : ofText text = .error e) : ∃ m, e = .badParameter "filter" m := by
  rw [ofText] at h
  split at h
  · cases h
    exact ⟨_, rfl⟩
  · split at h
    · cases h
      exact ⟨_, rfl⟩
    · cases h

/-! ## Compilation -/

section Compilation

variable {ms : Record Json} {before after : List Datum} {p : Predicate}

theorem tests_conjunction (fs : List Filter) : (conjunction fs).tests = testsOf fs := by
  match fs with
  | [] => rfl
  | [f] => simp [conjunction, testsOf]
  | f :: g :: fs => rfl

theorem testsOf_equals (es : List (String × Json)) :
    testsOf (es.map fun e => equals e.1 e.2) = es.map fun e => .compare e.1 .eq e.2 := by
  induction es with
  | nil => rfl
  | cons e es ih =>
    rw [List.map_cons, testsOf, ih]
    rfl

theorem fields_conjunction (fs : List Filter) : (conjunction fs).fields = fieldsOf fs := by
  match fs with
  | [] => rfl
  | [f] => simp [conjunction, fieldsOf]
  | f :: g :: fs => rfl

theorem fieldsOf_equals (es : List (String × Json)) :
    fieldsOf (es.map fun e => equals e.1 e.2) = es.map Prod.fst := by
  induction es with
  | nil => rfl
  | cons e es ih =>
    rw [List.map_cons, fieldsOf, ih]
    rfl

/-- The fields that the filter names are those of the members. -/
theorem mem_fields_ofMembers {name : String} :
    name ∈ (ofMembers ms).fields ↔ ∃ v, ms.find? name = some v := by
  rw [ofMembers, fields_conjunction, fieldsOf_equals, ← Option.isSome_iff_exists]
  exact Record.mem_names_iff

theorem tests_ofMembers (ms : Record Json) :
    (ofMembers ms).tests = ms.entries.map fun e => .compare e.1 .eq e.2 := by
  rw [ofMembers, tests_conjunction, testsOf_equals]

theorem comparable_eq_iff {v : Json} : Comparable .eq v ↔ v.Flat := by
  cases v <;> simp [Comparable, Json.Flat]

/-- **A filter in its simple form compiles** exactly if each of its members can be tested, whatever
is bound before it. -/
theorem toPredicate_ofMembers_iff (hms : ms.WellFormed) (before : List Datum) :
    (∃ p after, (ofMembers ms).toPredicate before = (.ok p, after)) ↔
      ∀ name v, ms.find? name = some v → IsFieldName name ∧ v.Flat := by
  have hprintable : ∀ t ∈ (ofMembers ms).tests, t.Printable := by
    rw [tests_ofMembers, List.forall_mem_map]
    rintro ⟨name, v⟩ hmem
    exact (hms name v (Record.mem_entries_iff.1 hmem)).printable
  have haccepted : (∀ t ∈ (ofMembers ms).tests, t.Accepted) ↔
      ∀ name v, ms.find? name = some v → IsFieldName name ∧ v.Flat := by
    rw [tests_ofMembers, List.forall_mem_map, Prod.forall]
    refine forall₂_congr fun name v => ?_
    rw [Record.mem_entries_iff, ← comparable_eq_iff]
    rfl
  rw [← haccepted, ← refused?_eq_none]
  cases hrefused : refused? (ofMembers ms).tests with
  | none =>
    obtain ⟨p, hp, -⟩ := compile_accepted _ before hprintable hrefused
    exact iff_of_true ⟨p, _, hp⟩ rfl
  | some t =>
    obtain ⟨after, hafter⟩ := compile_refused _ before hprintable hrefused
    refine iff_of_false ?_ (by simp)
    rintro ⟨p, after', hp⟩
    cases hafter.symm.trans hp

end Compilation

/-! ## Decision -/

section Decision

variable {ε : Type} {look : Datum → Except ε Datum} {before after params : List Datum}

/-- The field can be looked at, and what is found there equals the value. -/
def Finds (look : Datum → Except ε Datum) (name : String) (v : Json) : Prop :=
  ∃ d, look (.text (pathText name)) = .ok d ∧ (equals name v).truth (fun _ => d) = .yes

/-- **One member.** Its test is decided by what is found at the path of its field alone. -/
theorem decides_equals {name : String} {v : Json} {p : Predicate}
    (h : Yields (compile (equals name v)) before p after) (hparams : after <+: params) :
    p.decides params look true = .ok true ↔ Finds look name v := by
  obtain ⟨hname, hcompares⟩ := yields_compare h
  have htruth (d : Datum) :
      p.truth params (fun _ => d) = (equals name v).truth (fun _ => d) :=
    (compiles_of_comparesAs hname hcompares).truth hparams fun _ _ => rfl
  have hpath : p.decides params look true = decidesAt params look true p (before.length + 1) := by
    cases hcompares <;> rfl
  have hbound : bound params (before.length + 1) = .text (pathText name) := by
    refine bound_of_prefix (List.IsPrefix.trans ?_ hparams)
    cases hcompares with
    | isNull => exact List.prefix_refl _
    | literal => exact List.prefix_append _ _
  rw [hpath, decidesAt, hbound, map_eq_ok, Finds]
  refine exists_congr fun d => and_congr_right fun _ => ?_
  rw [htruth, decide_eq_true_iff]
  rfl

theorem decidesTerms_cons {p : Predicate} {ps : List Predicate} :
    decidesTerms params look true true (p :: ps) = .ok true ↔
      p.decides params look true = .ok true ∧ decidesTerms params look true true ps = .ok true := by
  rw [decidesTerms, bind_eq_ok]
  apply Iff.intro
  · rintro ⟨b, hb, h⟩
    cases b with
    | false => cases h
    | true => exact ⟨hb, h⟩
  · rintro ⟨hfirst, hrest⟩
    exact ⟨true, hfirst, hrest⟩

/-- **Many members**, one by one: what is bound for the first is still there after the others. -/
theorem decidesTerms_equals (es : List (String × Json)) {before after : List Datum}
    {ps : List Predicate}
    (h : Yields (compileTerms (es.map fun e => equals e.1 e.2)) before ps after)
    (hparams : after <+: params) :
    decidesTerms params look true true ps = .ok true ↔ ∀ e ∈ es, Finds look e.1 e.2 := by
  induction es generalizing before ps with
  | nil =>
    obtain ⟨rfl, -⟩ := yields_pure.1 h
    simp [decidesTerms]
  | cons e es ih =>
    rw [List.map_cons, compileTerms] at h
    obtain ⟨p, mid, hfirst, h⟩ := yields_bind.1 h
    obtain ⟨ps, _, hrest, h⟩ := yields_bind.1 h
    obtain ⟨rfl, rfl⟩ := yields_pure.1 h
    have hmid := (compilesTerms_of_yields _ hrest).appends.trans hparams
    rw [decidesTerms_cons, decides_equals hfirst hmid, ih hrest, List.forall_mem_cons]

/-- A predicate that tests one field. -/
def IsTest : Predicate → Prop
  | .isNull _ | .isNotNull _ | .compare _ _ _ => True
  | _ => False

theorem isTest_of_yields {name : String} {v : Json} {p : Predicate}
    (h : Yields (compile (equals name v)) before p after) : IsTest p := by
  cases (yields_compare h).2 <;> trivial

theorem isTest_of_yieldsTerms (es : List (String × Json)) {before after : List Datum}
    {ps : List Predicate}
    (h : Yields (compileTerms (es.map fun e => equals e.1 e.2)) before ps after) :
    ps.length = es.length ∧ ∀ p ∈ ps, IsTest p := by
  induction es generalizing before ps with
  | nil =>
    obtain ⟨rfl, -⟩ := yields_pure.1 h
    simp
  | cons e es ih =>
    rw [List.map_cons, compileTerms] at h
    obtain ⟨p, mid, hfirst, h⟩ := yields_bind.1 h
    obtain ⟨ps, _, hrest, h⟩ := yields_bind.1 h
    obtain ⟨rfl, rfl⟩ := yields_pure.1 h
    obtain ⟨hlength, htests⟩ := ih hrest
    rw [List.length_cons, List.length_cons, hlength, List.forall_mem_cons]
    exact ⟨rfl, isTest_of_yields hfirst, htests⟩

theorem foldedTerms_of_isTest {ps : List Predicate} (h : ∀ p ∈ ps, IsTest p) :
    Predicate.foldedTerms ps = ps := by
  induction ps with
  | nil => rfl
  | cons p ps ih =>
    obtain ⟨hfirst, hrest⟩ := List.forall_mem_cons.1 h
    rw [Predicate.foldedTerms, ih hrest]
    cases p <;> first | rfl | cases hfirst

theorem conjunctsOf_of_isTest {ps : List Predicate} (h : ∀ p ∈ ps, IsTest p) :
    Predicate.conjunctsOf ps = ps := by
  induction ps with
  | nil => rfl
  | cons p ps ih =>
    obtain ⟨hfirst, hrest⟩ := List.forall_mem_cons.1 h
    rw [Predicate.conjunctsOf, ih hrest]
    cases p <;> first | rfl | cases hfirst

theorem stages_of_isTest {p : Predicate} (h : IsTest p) : p.stages = [p] := by
  cases p <;> first | rfl | cases h

/-- Tests have no constants among them: they are looked at in their order. -/
theorem stages_and {ps : List Predicate} (h : ∀ p ∈ ps, IsTest p) (hmany : ps.length ≠ 1) :
    (Predicate.and ps).stages = ps := by
  have hpaths : ∀ p ∈ ps, p.paths.isEmpty = false ∧ p.isFalse = false := by
    intro p hp
    have htest := h p hp
    cases p <;> first | exact ⟨rfl, rfl⟩ | cases htest
  have hfalse : ps.any Predicate.isFalse = false :=
    List.any_eq_false.2 fun p hp => by simp [(hpaths p hp).2]
  have hfolded : (Predicate.and ps).folded = .and ps := by
    rw [Predicate.folded, foldedTerms_of_isTest h, Predicate.conjunction, hfalse,
      if_neg Bool.false_ne_true]
    rintro p rfl
    exact hmany rfl
  have hconstant : ps.filter (fun p => p.paths.isEmpty) = [] :=
    List.filter_eq_nil_iff.2 fun p hp => by simp [(hpaths p hp).1]
  have hothers : ps.filter (fun p => !p.paths.isEmpty) = ps :=
    List.filter_eq_self.2 fun p hp => by simp [(hpaths p hp).1]
  rw [Predicate.stages, hfolded, Predicate.conjuncts, conjunctsOf_of_isTest h, hconstant, hothers]
  rfl

/-- **The predicate of an object** selects a row exactly if each member is found, in all three ways
in which members are put together. -/
theorem settles_ofMembers {ms : Record Json} {p : Predicate}
    (h : (ofMembers ms).toPredicate before = (.ok p, params)) :
    p.settles params look = .ok true ↔ ∀ name v, ms.find? name = some v → Finds look name v := by
  have hmembers : p.settles params look = .ok true ↔ ∀ e ∈ ms.entries, Finds look e.1 e.2 := by
    rw [ofMembers] at h
    cases hentries : ms.entries with
    | nil =>
      rw [hentries] at h
      obtain ⟨rfl, -⟩ := yields_pure.1 h
      exact iff_of_true rfl (by simp)
    | cons e es =>
      rw [hentries] at h
      cases es with
      | nil =>
        rw [Predicate.settles, stages_of_isTest (isTest_of_yields h), decidesTerms_cons,
          decides_equals h (List.prefix_refl _)]
        simp [decidesTerms]
      | cons e' es =>
        obtain ⟨ps, _, hterms, h⟩ := yields_bind.1 h
        obtain ⟨rfl, rfl⟩ := yields_pure.1 h
        obtain ⟨hlength, htests⟩ := isTest_of_yieldsTerms (e :: e' :: es) hterms
        rw [Predicate.settles, stages_and htests (by simp [hlength])]
        exact decidesTerms_equals (e :: e' :: es) hterms (List.prefix_refl _)
  rw [hmembers, Prod.forall]
  simp only [Record.mem_entries_iff]

end Decision

end Filter

end Backlog
