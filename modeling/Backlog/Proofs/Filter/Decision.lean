import Backlog.Proofs.Filter.Compile
import Backlog.Proofs.Result

/-!
# Predicates are decided term by term

A predicate is decided over a row from left to right, and no term is looked at that the answer does
not need. Whether it is true and whether it is false are decided apart, so `unknown` takes no third
way.

**Constant terms** leave the truth of a predicate as it is, whether they are folded into it
(`truth_folded`), known beforehand (`truth_of_known`) or looked at before the others. They only save
looks.

**Main statement (`settles_compiled`).** If the fields that a filter names can be looked at, its
compiled predicate is decided, and found true exactly if the filter is.
-/

namespace Backlog

namespace Truth

variable {ts : List Truth}

theorem all_singleton (t : Truth) : all [t] = t := by
  cases t <;> rfl

theorem any_singleton (t : Truth) : any [t] = t := by
  cases t <;> rfl

theorem all_append (ts ts' : List Truth) : all (ts ++ ts') = (all ts).and (all ts') := by
  induction ts with
  | nil =>
    show all ts' = yes.and (all ts')
    cases all ts' <;> rfl
  | cons t ts ih =>
    show t.and (all (ts ++ ts')) = (t.and (all ts)).and (all ts')
    rw [ih]
    cases t <;> cases all ts <;> cases all ts' <;> rfl

theorem all_eq_yes : all ts = yes ↔ ∀ t ∈ ts, t = yes := by
  induction ts with
  | nil => simp [all]
  | cons t ts ih =>
    rw [all, List.foldr_cons, List.forall_mem_cons, ← ih]
    change t.and (all ts) = yes ↔ _
    cases t <;> cases all ts <;> simp [and]

theorem all_eq_no : all ts = no ↔ ∃ t ∈ ts, t = no := by
  induction ts with
  | nil => simp [all]
  | cons t ts ih =>
    rw [all, List.foldr_cons, List.exists_mem_cons_iff, ← ih]
    change t.and (all ts) = no ↔ _
    cases t <;> cases all ts <;> simp [and]

theorem any_eq_yes : any ts = yes ↔ ∃ t ∈ ts, t = yes := by
  induction ts with
  | nil => simp [any]
  | cons t ts ih =>
    rw [any, List.foldr_cons, List.exists_mem_cons_iff, ← ih]
    change t.or (any ts) = yes ↔ _
    cases t <;> cases any ts <;> simp [or]

theorem any_eq_no : any ts = no ↔ ∀ t ∈ ts, t = no := by
  induction ts with
  | nil => simp [any]
  | cons t ts ih =>
    rw [any, List.foldr_cons, List.forall_mem_cons, ← ih]
    change t.or (any ts) = no ↔ _
    cases t <;> cases any ts <;> simp [or]

theorem ofBool_inj {a b : Bool} : ofBool a = ofBool b ↔ a = b := by
  cases a <;> cases b <;> decide

theorem not_eq_ofBool (t : Truth) (b : Bool) : t.not = ofBool b ↔ t = ofBool (!b) := by
  cases t <;> cases b <;> simp [not, ofBool]

end Truth

/-! ## Predicates -/

namespace Predicate

section Truth

variable {params : List Datum} {extract : Datum → Datum}

theorem truths_eq_map (ps : List Predicate) :
    truths params extract ps = ps.map (truth params extract) := by
  induction ps with
  | nil => rfl
  | cons p ps ih => rw [truths, ih, List.map_cons]

theorem pathsOf_eq_flatMap (ps : List Predicate) : pathsOf ps = ps.flatMap paths := by
  induction ps with
  | nil => rfl
  | cons p ps ih => rw [pathsOf, ih, List.flatMap_cons]

/-! ### Folding -/

theorem eq_constant_of_isFalse {p : Predicate} (h : p.isFalse = true) : p = constant false := by
  cases p with
  | constant b => cases b <;> simp_all [isFalse]
  | _ => cases h

theorem truth_conjunction (ps : List Predicate) :
    (conjunction ps).truth params extract = .all (truths params extract ps) := by
  unfold conjunction
  split
  next h =>
    obtain ⟨p, hp, hfalse⟩ := List.any_eq_true.1 h
    have hno : p.truth params extract = .no := by
      rw [eq_constant_of_isFalse hfalse]
      rfl
    refine (Truth.all_eq_no.2 ⟨_, ?_, hno⟩).symm
    rw [truths_eq_map]
    exact List.mem_map_of_mem hp
  next =>
    split
    · exact (Truth.all_singleton _).symm
    · rfl

theorem truth_disjunction (ps : List Predicate) :
    (disjunction ps).truth params extract = .any (truths params extract ps) := by
  unfold disjunction
  split
  · exact (Truth.any_singleton _).symm
  · rfl

mutual

/-- **Folding a predicate** does not change its truth. -/
theorem truth_folded (p : Predicate) : p.folded.truth params extract = p.truth params extract := by
  cases p with
  | and terms => rw [folded, truth_conjunction, truths_folded terms, truth]
  | or terms => rw [folded, truth_disjunction, truths_folded terms, truth]
  | not inner => rw [folded, truth, truth, truth_folded inner]
  | constant | isNull | isNotNull | compare => rfl

theorem truths_folded (ps : List Predicate) :
    truths params extract (foldedTerms ps) = truths params extract ps := by
  cases ps with
  | nil => rfl
  | cons p ps => rw [foldedTerms, truths, truths, truth_folded p, truths_folded ps]

end

theorem paths_conjunction (ps : List Predicate) : (conjunction ps).paths ⊆ pathsOf ps := by
  unfold conjunction
  split
  · exact List.nil_subset _
  · split
    · simp [pathsOf_eq_flatMap]
    · exact List.Subset.refl _

theorem paths_disjunction (ps : List Predicate) : (disjunction ps).paths ⊆ pathsOf ps := by
  unfold disjunction
  split
  · simp [pathsOf_eq_flatMap]
  · exact List.Subset.refl _

mutual

theorem paths_folded (p : Predicate) : p.folded.paths ⊆ p.paths := by
  cases p with
  | and terms => exact List.Subset.trans (paths_conjunction _) (pathsOf_foldedTerms terms)
  | or terms => exact List.Subset.trans (paths_disjunction _) (pathsOf_foldedTerms terms)
  | not inner => exact paths_folded inner
  | constant | isNull | isNotNull | compare => exact List.Subset.refl _

theorem pathsOf_foldedTerms (ps : List Predicate) : pathsOf (foldedTerms ps) ⊆ pathsOf ps := by
  cases ps with
  | nil => exact List.Subset.refl _
  | cons p ps =>
    rw [foldedTerms, pathsOf, pathsOf]
    exact List.append_subset.2
      ⟨List.subset_append_of_subset_left _ (paths_folded p),
        List.subset_append_of_subset_right _ (pathsOf_foldedTerms ps)⟩

end

/-! ### Known values -/

/-- What is known of some terms is what they are. -/
def Tells (known : List (Option Bool)) (ts : List Truth) : Prop :=
  List.Forall₂ (fun k t => ∀ b, k = some b → t = .ofBool b) known ts

/-- One term with the decisive value is known, or all terms are known to have the other one. -/
theorem joined_eq_some {decisive b : Bool} {known : List (Option Bool)} {ts : List Truth}
    (htells : Tells known ts) (h : joined decisive known = some b) :
    b = decisive ∧ (∃ t ∈ ts, t = .ofBool decisive) ∨
      b = (!decisive) ∧ ∀ t ∈ ts, t = .ofBool !decisive := by
  unfold joined at h
  split at h
  next hmem =>
    cases h
    obtain ⟨t, ht, hk⟩ := exists_of_mem_left htells (List.contains_iff_mem.1 hmem)
    exact .inl ⟨rfl, t, ht, hk _ rfl⟩
  next =>
    split at h
    next hall =>
      cases h
      refine .inr ⟨rfl, fun t ht => ?_⟩
      obtain ⟨k, hk, htell⟩ := exists_of_mem_right htells ht
      exact htell _ (eq_of_beq (List.all_eq_true.1 hall k hk))
    next => cases h

mutual

/-- **What is known beforehand** is the truth in every row. -/
theorem truth_of_known (p : Predicate) {b : Bool} (h : p.known? = some b) :
    p.truth params extract = .ofBool b := by
  cases p with
  | constant c =>
    cases h
    rfl
  | and terms =>
    rw [known?] at h
    rw [truth]
    rcases joined_eq_some (tells_knownTerms terms) h with ⟨rfl, hno⟩ | ⟨rfl, hyes⟩
    · exact Truth.all_eq_no.2 hno
    · exact Truth.all_eq_yes.2 hyes
  | or terms =>
    rw [known?] at h
    rw [truth]
    rcases joined_eq_some (tells_knownTerms terms) h with ⟨rfl, hyes⟩ | ⟨rfl, hno⟩
    · exact Truth.any_eq_yes.2 hyes
    · exact Truth.any_eq_no.2 hno
  | isNull | isNotNull | compare | not => cases h

theorem tells_knownTerms (ps : List Predicate) :
    Tells (knownTerms ps) (truths params extract ps) := by
  cases ps with
  | nil => exact .nil
  | cons p ps => exact .cons (fun _ h => truth_of_known p h) (tells_knownTerms ps)

end

/-! ### Conjuncts -/

mutual

theorem all_conjuncts (p : Predicate) :
    Truth.all (truths params extract p.conjuncts) = p.truth params extract := by
  cases p with
  | and terms => rw [conjuncts, all_conjunctsOf terms, truth]
  | constant | isNull | isNotNull | compare | or | not => exact Truth.all_singleton _

theorem all_conjunctsOf (ps : List Predicate) :
    Truth.all (truths params extract (conjunctsOf ps)) = .all (truths params extract ps) := by
  cases ps with
  | nil => rfl
  | cons p ps =>
    rw [conjunctsOf, truths_eq_map, List.map_append, Truth.all_append, ← truths_eq_map,
      ← truths_eq_map, all_conjuncts p, all_conjunctsOf ps]
    rfl

end

mutual

theorem pathsOf_conjuncts (p : Predicate) : pathsOf p.conjuncts = p.paths := by
  cases p with
  | and terms => rw [conjuncts, pathsOf_conjunctsOf terms, paths]
  | constant | isNull | isNotNull | compare | or | not => simp [conjuncts, pathsOf_eq_flatMap]

theorem pathsOf_conjunctsOf (ps : List Predicate) : pathsOf (conjunctsOf ps) = pathsOf ps := by
  cases ps with
  | nil => rfl
  | cons p ps =>
    rw [conjunctsOf, pathsOf_eq_flatMap, List.flatMap_append, ← pathsOf_eq_flatMap,
      ← pathsOf_eq_flatMap, pathsOf_conjuncts p, pathsOf_conjunctsOf ps, pathsOf]

end

theorem mem_stages {p q : Predicate} : q ∈ p.stages ↔ q ∈ p.folded.conjuncts := by
  rw [stages, List.mem_append, List.mem_filter, List.mem_filter, ← and_or_left]
  cases q.paths.isEmpty <;> simp

theorem pathsOf_stages (p : Predicate) : pathsOf p.stages ⊆ p.paths := by
  intro k hk
  rw [pathsOf_eq_flatMap] at hk
  obtain ⟨q, hq, hpath⟩ := List.mem_flatMap.1 hk
  apply paths_folded p
  rw [← pathsOf_conjuncts, pathsOf_eq_flatMap]
  exact List.mem_flatMap.2 ⟨q, mem_stages.1 hq, hpath⟩

/-- The conjuncts are all true exactly if the predicate is. -/
theorem forall_stages_iff (p : Predicate) :
    (∀ t ∈ truths params extract p.stages, t = .yes) ↔ p.truth params extract = .yes := by
  rw [← truth_folded p, ← all_conjuncts p.folded, Truth.all_eq_yes]
  simp only [truths_eq_map, List.forall_mem_map, mem_stages]

end Truth

section Decides

variable {ε : Type} {params : List Datum} {look : Datum → Except ε Datum}
  {extract : Datum → Datum}

theorem decidesAt_eq {test : Predicate} {path : Nat}
    (h : look (bound params path) = .ok (extract (bound params path)))
    (htest : test.truth params (fun _ => extract (bound params path)) = test.truth params extract)
    (wanted : Bool) :
    decidesAt params look wanted test path =
      .ok (test.truth params extract = .ofBool wanted) := by
  rw [decidesAt, h, ← htest]
  rfl

mutual

theorem decides_eq (p : Predicate)
    (h : ∀ k ∈ p.paths, look (bound params k) = .ok (extract (bound params k))) (wanted : Bool) :
    p.decides params look wanted = .ok (p.truth params extract = .ofBool wanted) := by
  cases p with
  | constant b => cases b <;> cases wanted <;> rfl
  | isNull path => exact decidesAt_eq (h path (List.mem_singleton_self _)) rfl wanted
  | isNotNull path => exact decidesAt_eq (h path (List.mem_singleton_self _)) rfl wanted
  | compare path op literal => exact decidesAt_eq (h path (List.mem_singleton_self _)) rfl wanted
  | and terms =>
    rw [decides]
    split
    next b hb => rw [truth_of_known _ hb, decide_eq_decide.2 Truth.ofBool_inj]
    next =>
      rw [decidesTerms_eq terms h, truth]
      cases wanted
      · simp [Truth.ofBool, Truth.all_eq_no, List.forall_mem_ne']
      · simp [Truth.ofBool, Truth.all_eq_yes]
  | or terms =>
    rw [decides]
    split
    next b hb => rw [truth_of_known _ hb, decide_eq_decide.2 Truth.ofBool_inj]
    next =>
      rw [decidesTerms_eq terms h, truth]
      cases wanted
      · simp [Truth.ofBool, Truth.any_eq_no]
      · simp [Truth.ofBool, Truth.any_eq_yes, List.forall_mem_ne']
  | not inner =>
    rw [decides, decides_eq inner h, truth]
    simp only [Truth.not_eq_ofBool]

theorem decidesTerms_eq (ps : List Predicate)
    (h : ∀ k ∈ pathsOf ps, look (bound params k) = .ok (extract (bound params k)))
    (wanted expected : Bool) :
    decidesTerms params look wanted expected ps =
      .ok (if ∀ t ∈ truths params extract ps, decide (t = .ofBool wanted) = expected then expected
        else !expected) := by
  cases ps with
  | nil => simp [decidesTerms, truths]
  | cons p ps =>
    have hfirst := decides_eq p (fun k hk => h k (List.mem_append_left _ hk)) wanted
    have hrest := decidesTerms_eq ps (fun k hk => h k (List.mem_append_right _ hk)) wanted expected
    rw [decidesTerms, hfirst, ok_bind, truths]
    by_cases hexpected : decide (p.truth params extract = .ofBool wanted) = expected
    · rw [if_pos hexpected, hrest]
      simp only [List.forall_mem_cons, hexpected, true_and]
    · rw [if_neg hexpected, if_neg fun hall => hexpected (hall _ List.mem_cons_self)]
      rfl

end

/-- A predicate whose fields can be looked at is settled by its truth. -/
theorem settles_eq (p : Predicate)
    (h : ∀ k ∈ p.paths, look (bound params k) = .ok (extract (bound params k))) :
    p.settles params look = .ok (p.truth params extract = .yes) := by
  rw [settles, decidesTerms_eq _ fun k hk => h k (pathsOf_stages p hk)]
  simp [Truth.ofBool, forall_stages_iff]

end Decides

end Predicate

/-! ## Filters -/

namespace Filter

open Predicate (bound paths pathsOf)

variable {before after params : List Datum}

mutual

/-- The fields that a filter names. -/
def fields : Filter → List String
  | all => []
  | compare field _ _ | isNull field => [field]
  | and terms | or terms => fieldsOf terms
  | not inner => fields inner

def fieldsOf : List Filter → List String
  | [] => []
  | f :: fs => fields f ++ fieldsOf fs

end

section Support

variable {stored stored' : String → Datum}

mutual

/-- A filter depends on no more than the fields that it names. -/
theorem truth_congr (f : Filter) (h : ∀ field ∈ f.fields, stored field = stored' field) :
    f.truth stored = f.truth stored' := by
  cases f with
  | all => rfl
  | isNull field => rw [truth, truth, h field (List.mem_singleton_self _)]
  | compare field op value =>
    have hfield := h field (List.mem_singleton_self _)
    unfold truth
    split <;> simp only [hfield]
  | and terms => rw [truth, truth, truths_congr terms h]
  | or terms => rw [truth, truth, truths_congr terms h]
  | not inner => rw [truth, truth, truth_congr inner h]

theorem truths_congr (fs : List Filter) (h : ∀ field ∈ fieldsOf fs, stored field = stored' field) :
    truths stored fs = truths stored' fs := by
  cases fs with
  | nil => rfl
  | cons f fs =>
    rw [truths, truths, truth_congr f fun field hf => h field (List.mem_append_left _ hf),
      truths_congr fs fun field hf => h field (List.mem_append_right _ hf)]

end

end Support

/-- A place is that of a path to a named field, in every list that goes on from these values. -/
def LeadsTo (names : List String) (after : List Datum) (k : Nat) : Prop :=
  ∃ field ∈ names, ∀ {params}, after <+: params → bound params k = .text (pathText field)

theorem LeadsTo.mono {names names' : List String} {k : Nat} (h : LeadsTo names after k)
    (hnames : names ⊆ names') (hafter : after <+: params) : LeadsTo names' params k := by
  obtain ⟨field, hfield, hbound⟩ := h
  exact ⟨field, hnames hfield, fun hparams => hbound (hafter.trans hparams)⟩

theorem leadsTo_bindField {field : String} {names : List String} (hfield : field ∈ names)
    (hafter : before ++ [.text (pathText field)] <+: after) :
    LeadsTo names after (before.length + 1) :=
  ⟨field, hfield, fun hparams => bound_of_prefix (hafter.trans hparams)⟩

mutual

/-- The paths of a compiled filter lead to the fields that it names. -/
theorem leadsTo_of_yields (f : Filter) {before after : List Datum} {p : Predicate}
    (h : Yields (compile f) before p after) : ∀ k ∈ p.paths, LeadsTo f.fields after k := by
  match f with
  | all | and [] | or [] =>
    obtain ⟨rfl, rfl⟩ := yields_pure.1 h
    intro k hk
    cases hk
  | isNull field =>
    rw [compile] at h
    obtain ⟨place, mid, hpath, h⟩ := yields_bind.1 h
    obtain ⟨-, rfl, rfl⟩ := yields_bindField.1 hpath
    obtain ⟨rfl, rfl⟩ := yields_pure.1 h
    intro k hk
    obtain rfl := List.mem_singleton.1 hk
    exact leadsTo_bindField (List.mem_singleton_self _) (List.prefix_refl _)
  | compare field op value =>
    obtain ⟨-, hcomparison⟩ := yields_compare h
    have hafter : before ++ [.text (pathText field)] <+: after := by
      cases hcomparison with
      | isNull => exact List.prefix_refl _
      | isNotNull => exact List.prefix_refl _
      | literal => exact List.prefix_append _ _
    have hpaths : p.paths = [before.length + 1] := by
      cases hcomparison <;> rfl
    intro k hk
    rw [hpaths] at hk
    obtain rfl := List.mem_singleton.1 hk
    exact leadsTo_bindField (List.mem_singleton_self _) hafter
  | and (f :: fs) | or (f :: fs) =>
    rw [compile] at h
    obtain ⟨ps, mid, hterms, h⟩ := yields_bind.1 h
    obtain ⟨rfl, rfl⟩ := yields_pure.1 h
    exact leadsTo_of_yieldsTerms (f :: fs) hterms
  | not inner =>
    rw [compile] at h
    obtain ⟨q, mid, hinner, h⟩ := yields_bind.1 h
    obtain ⟨rfl, rfl⟩ := yields_pure.1 h
    exact fun k hk => leadsTo_of_yields inner hinner k hk

theorem leadsTo_of_yieldsTerms (fs : List Filter) {before after : List Datum}
    {ps : List Predicate} (h : Yields (compileTerms fs) before ps after) :
    ∀ k ∈ pathsOf ps, LeadsTo (fieldsOf fs) after k := by
  match fs with
  | [] =>
    obtain ⟨rfl, rfl⟩ := yields_pure.1 h
    intro k hk
    cases hk
  | f :: fs =>
    rw [compileTerms] at h
    obtain ⟨p, mid, hfirst, h⟩ := yields_bind.1 h
    obtain ⟨ps, _, hrest, h⟩ := yields_bind.1 h
    obtain ⟨rfl, rfl⟩ := yields_pure.1 h
    intro k hk
    rcases List.mem_append.1 hk with hk | hk
    · exact (leadsTo_of_yields f hfirst k hk).mono (List.subset_append_left _ _)
        (compilesTerms_of_yields fs hrest).appends
    · exact (leadsTo_of_yieldsTerms fs hrest k hk).mono (List.subset_append_right _ _)
        (List.prefix_refl _)

end

/-- A predicate has the truth of its filter if the paths of the fields that the filter names lead to
their values. -/
theorem truth_compiled {f : Filter} {p : Predicate} {extract : Datum → Datum}
    {stored : String → Datum} (hcompiled : f.toPredicate before = (.ok p, params))
    (hextract : ∀ field ∈ f.fields, extract (.text (pathText field)) = stored field) :
    p.truth params extract = f.truth stored := by
  have htruth : p.truth params extract = f.truth fun field => extract (.text (pathText field)) :=
    (compiles_of_toPredicate hcompiled).truth (List.prefix_refl _) fun _ _ => rfl
  rw [htruth, truth_congr f hextract]

/-- **Deciding a compiled filter gives its truth.** -/
theorem settles_compiled {ε : Type} {f : Filter} {p : Predicate} {look : Datum → Except ε Datum}
    {stored : String → Datum} (hcompiled : f.toPredicate before = (.ok p, params))
    (hlook : ∀ field ∈ f.fields, look (.text (pathText field)) = .ok (stored field)) :
    p.settles params look = .ok (f.truth stored = .yes) := by
  -- What is found at a path, whether or not the filter looks there.
  let extract : Datum → Datum := fun d => (look d).toOption.getD .null
  have hextract : ∀ field ∈ f.fields, extract (.text (pathText field)) = stored field := by
    intro field hfield
    show (look (.text (pathText field))).toOption.getD .null = stored field
    rw [hlook field hfield]
    rfl
  have hpaths : ∀ k ∈ p.paths, look (bound params k) = .ok (extract (bound params k)) := by
    intro k hk
    obtain ⟨field, hfield, hbound⟩ := leadsTo_of_yields f hcompiled k hk
    rw [hbound (List.prefix_refl _), hextract field hfield, hlook field hfield]
  rw [Predicate.settles_eq p hpaths, truth_compiled hcompiled hextract]

end Filter

end Backlog
