import Backlog.Proofs.Store.ItemCauses

/-!
# A filter and its negation

A filter has one of three truths of an item, and a list shows the items of which it is true. The
negation of a filter is true of those of which the filter is false, so what neither of them shows
is what the filter leaves undecided.

**Main statement (`listItems_not`).** The lists of a filter and of its negation have nothing in
common. Together they are the list of all items, and their totals add up to its total, exactly if
the filter is decided of every live item. It is, where every field that it compares with something
other than `null` is there.

**The gap** (`exists_item_in_neither`): an item without a field that is compared is in neither list.

**Left aside** are fields whose name holds a NUL: that there is none is a hypothesis. A list may be
made of such a field where the field is not looked at, because there is no item, because another
term has settled the filter, or because the store reads the filter as a constant. How long and how
deep a statement may be is left aside as well.
-/

namespace Backlog

/-! ## Two truth values -/

namespace Truth

variable {ts : List Truth}

theorem all_ne_unknown (h : ∀ t ∈ ts, t ≠ unknown) : all ts ≠ unknown := by
  induction ts with
  | nil => simp [all]
  | cons t ts ih =>
    obtain ⟨hfirst, hrest⟩ := List.forall_mem_cons.1 h
    have hall : all ts ≠ unknown := ih hrest
    change t.and (all ts) ≠ unknown
    revert hfirst hall
    cases t <;> cases all ts <;> simp [and]

theorem any_ne_unknown (h : ∀ t ∈ ts, t ≠ unknown) : any ts ≠ unknown := by
  induction ts with
  | nil => simp [any]
  | cons t ts ih =>
    obtain ⟨hfirst, hrest⟩ := List.forall_mem_cons.1 h
    have hany : any ts ≠ unknown := ih hrest
    change t.or (any ts) ≠ unknown
    revert hfirst hany
    cases t <;> cases any ts <;> simp [or]

theorem ofBool_ne_unknown (b : Bool) : ofBool b ≠ unknown := by
  cases b <;> decide

theorem not_ne_unknown {t : Truth} (h : t ≠ unknown) : t.not ≠ unknown := by
  cases t <;> simp_all [not]

end Truth

namespace Datum

/-- Two values that are there can be compared. -/
theorem exists_compare {a b : Datum} (ha : a ≠ null) (hb : b ≠ null) :
    ∃ o, a.compare b = some o := by
  cases a <;> cases b <;> simp_all [compare]

end Datum

namespace Filter

variable {before after : List Datum} {stored : String → Datum}

mutual

/-- The fields that a filter compares with something other than `null`. -/
def compared : Filter → List String
  | all | isNull _ | compare _ _ .null => []
  | compare field _ _ => [field]
  | and terms | or terms => comparedOf terms
  | not inner => compared inner

def comparedOf : List Filter → List String
  | [] => []
  | f :: fs => compared f ++ comparedOf fs

end

theorem literal_ne_null {field : String} {value : Json} {d : Datum}
    (h : literal field value = .ok d) : d ≠ .null := by
  rintro rfl
  cases value with
  | int n =>
    rw [literal] at h
    split at h
    · cases h
    · split at h <;> cases h
  | _ => cases h

mutual

/-- A filter that compiles is decided where the fields that it compares are there. -/
theorem truth_ne_unknown (f : Filter) {before after : List Datum} {p : Predicate}
    (h : Yields (compile f) before p after) (hthere : ∀ field ∈ f.compared, stored field ≠ .null) :
    f.truth stored ≠ .unknown := by
  match f with
  | all => exact Truth.ofBool_ne_unknown true
  | isNull field => exact Truth.ofBool_ne_unknown _
  | compare field op value =>
    obtain ⟨-, hcomparison⟩ := yields_compare h
    cases hcomparison with
    | isNull => exact Truth.ofBool_ne_unknown _
    | isNotNull => exact Truth.ofBool_ne_unknown _
    | literal hliteral =>
      have hfield : field ∈ (Filter.compare field op value).compared := by
        cases value with
        | null => exact absurd rfl (ne_null_of_literal hliteral)
        | _ => exact List.mem_singleton_self field
      obtain ⟨o, ho⟩ := Datum.exists_compare (hthere field hfield) (literal_ne_null hliteral)
      rw [truth_compare hliteral, Sql.compareTruth, ho]
      exact Truth.ofBool_ne_unknown _
  | and [] => exact Truth.ofBool_ne_unknown true
  | or [] => exact Truth.ofBool_ne_unknown false
  | and (f :: fs) =>
    rw [compile] at h
    obtain ⟨ps, mid, hterms, -⟩ := yields_bind.1 h
    exact Truth.all_ne_unknown (truths_ne_unknown (f :: fs) hterms hthere)
  | or (f :: fs) =>
    rw [compile] at h
    obtain ⟨ps, mid, hterms, -⟩ := yields_bind.1 h
    exact Truth.any_ne_unknown (truths_ne_unknown (f :: fs) hterms hthere)
  | not inner =>
    rw [compile] at h
    obtain ⟨q, mid, hinner, -⟩ := yields_bind.1 h
    exact Truth.not_ne_unknown (truth_ne_unknown inner hinner hthere)

theorem truths_ne_unknown (fs : List Filter) {before after : List Datum} {ps : List Predicate}
    (h : Yields (compileTerms fs) before ps after)
    (hthere : ∀ field ∈ comparedOf fs, stored field ≠ .null) :
    ∀ t ∈ truths stored fs, t ≠ .unknown := by
  match fs with
  | [] =>
    intro t ht
    cases ht
  | f :: fs =>
    rw [compileTerms] at h
    obtain ⟨p, mid, hfirst, h⟩ := yields_bind.1 h
    obtain ⟨ps, _, hrest, -⟩ := yields_bind.1 h
    rw [truths, List.forall_mem_cons]
    exact ⟨truth_ne_unknown f hfirst fun field hf => hthere field (List.mem_append_left _ hf),
      truths_ne_unknown fs hrest fun field hf => hthere field (List.mem_append_right _ hf)⟩

end

theorem toPredicate_not {f : Filter} {p : Predicate} {params : List Datum}
    (h : f.toPredicate [] = (.ok p, params)) : (not f).toPredicate [] = (.ok (.not p), params) := by
  have hyields : Yields (compile (not f)) [] (.not p) params := by
    rw [compile]
    exact yields_bind.2 ⟨p, params, h, yields_pure.2 ⟨rfl, rfl⟩⟩
  exact hyields

end Filter

namespace Store

variable {s : Store} {f : Filter} {p : Predicate} {params : List Datum} {r : ItemRow}
  {rows : List ItemRow} {ws : List WorkItem} {total : Nat}

/-! ## Rows of a filter -/

/-- The truth of a filter of what a row holds. -/
def truthOf (f : Filter) (r : ItemRow) : Truth := f.truth (Stored.extract r.fieldsText)

/-- The filter is true or false of every live item. -/
def Decided (f : Filter) (s : Store) : Prop := ∀ r ∈ liveItems s, truthOf f r ≠ .unknown

instance : Decidable (Decided f s) :=
  inferInstanceAs (Decidable (∀ r ∈ liveItems s, truthOf f r ≠ .unknown))

/-- The live items of which a filter has a truth. -/
def liveWith (t : Truth) (f : Filter) (s : Store) : List ItemRow :=
  (liveItems s).filter (truthOf f · = t)

theorem mem_liveWith {t : Truth} : r ∈ liveWith t f s ↔ r ∈ liveItems s ∧ truthOf f r = t := by
  simp [liveWith]

theorem truthOf_not (f : Filter) (r : ItemRow) : truthOf (.not f) r = .yes ↔ truthOf f r = .no := by
  show (f.truth _).not = .yes ↔ _
  exact Truth.not_eq_ofBool _ true

theorem liveWith_yes_not (f : Filter) (s : Store) : liveWith .yes (.not f) s = liveWith .no f s :=
  List.filter_congr fun r _ => decide_eq_decide.2 (truthOf_not f r)

theorem length_liveWith (f : Filter) (s : Store) :
    (liveWith .yes f s).length + (liveWith .no f s).length + (liveWith .unknown f s).length =
      (liveItems s).length := by
  simp only [liveWith]
  induction liveItems s with
  | nil => rfl
  | cons r rows ih =>
    cases h : truthOf f r <;> simp only [List.filter_cons, h, decide_true, reduceCtorEq,
      decide_false, if_true, if_false, Bool.false_eq_true, List.length_cons] <;> omega

/-- The totals of two complementary lists miss what is undecided. -/
theorem decided_iff_length (f : Filter) (s : Store) : Decided f s ↔
    (liveWith .yes f s).length + (liveWith .no f s).length = (liveItems s).length := by
  have hnone : Decided f s ↔ liveWith .unknown f s = [] := by
    simp [Decided, liveWith, List.filter_eq_nil_iff]
  rw [hnone, ← List.length_eq_zero_iff, ← length_liveWith f s]
  omega

/-! ## Lists -/

/-- A list shows the live items of which the filter is true, and counts them. -/
theorem listItems_liveWith (hcompiled : f.toPredicate [] = (.ok p, params))
    (hplain : ∀ field ∈ f.fields, ¬ HoldsNul field) :
    (listItems f none none).runOn s = (.ok (ws, total), s) ↔
      total = (liveWith .yes f s).length ∧ ShownAs s (liveWith .yes f s) ws :=
  listItems_eq_ok_iff hcompiled
    (selected_eq_filter fun r _ => selects_eq_truth hcompiled hplain r)

theorem exists_shownAs {all : List WorkItem} (hall : ShownAs s (liveItems s) all) (t : Truth)
    (f : Filter) : ∃ ws, ShownAs s (liveWith t f s) ws := by
  refine exists_forall₂ fun r hr => ?_
  obtain ⟨w, -, hw⟩ := exists_of_mem_left hall (mem_liveWith.1 hr).1
  exact ⟨w, hw⟩

theorem ids_ne_of_shownAs {ws' : List WorkItem} (hs : Numbered s)
    (hyes : ShownAs s (liveWith .yes f s) ws) (hno : ShownAs s (liveWith .no f s) ws') :
    ∀ w ∈ ws, ∀ w' ∈ ws', w.id ≠ w'.id := by
  intro w hw w' hw' hid
  obtain ⟨r, hr, hshow⟩ := exists_of_mem_right hyes hw
  obtain ⟨q, hq, hshow'⟩ := exists_of_mem_right hno hw'
  obtain ⟨hr, htrue⟩ := mem_liveWith.1 hr
  obtain ⟨hq, hfalse⟩ := mem_liveWith.1 hq
  obtain rfl := eq_of_showListed hs hr hq hshow hshow' hid
  rw [htrue] at hfalse
  cases hfalse

/-- Two complementary lists leave out the items of which the filter is undecided. -/
theorem mem_shownAs_iff_decided {all ws' : List WorkItem} (hs : Numbered s)
    (hall : ShownAs s (liveItems s) all) (hyes : ShownAs s (liveWith .yes f s) ws)
    (hno : ShownAs s (liveWith .no f s) ws') :
    (∀ w, w ∈ all ↔ w ∈ ws ∨ w ∈ ws') ↔ Decided f s := by
  simp only [mem_iff_of_forall₂ hall, mem_iff_of_forall₂ hyes, mem_iff_of_forall₂ hno, mem_liveWith]
  constructor
  · intro hboth r hr hunknown
    obtain ⟨w, -, hw⟩ := exists_of_mem_left hall hr
    rcases (hboth w).1 ⟨r, hr, hw⟩ with ⟨q, ⟨hq, htruth⟩, hw'⟩ | ⟨q, ⟨hq, htruth⟩, hw'⟩
    all_goals
      obtain rfl := eq_of_showListed hs hr hq hw hw' rfl
      rw [hunknown] at htruth
      cases htruth
  · intro hdecided w
    constructor
    · rintro ⟨r, hr, hw⟩
      cases htruth : truthOf f r with
      | yes => exact .inl ⟨r, ⟨hr, htruth⟩, hw⟩
      | no => exact .inr ⟨r, ⟨hr, htruth⟩, hw⟩
      | unknown => exact absurd htruth (hdecided r hr)
    · rintro (⟨r, ⟨hr, -⟩, hw⟩ | ⟨r, ⟨hr, -⟩, hw⟩)
      all_goals exact ⟨r, hr, hw⟩

/-- **The negation of a filter shows what the filter is false of.** After every run, the predicates
of a filter that compiles and of its negation select the rows of which it is true and of which it
is false, so no item stands in both lists. Where all items can be listed, both lists are there.
Every item stands in one of them, and the totals add up, exactly if the filter is decided of every
live item. It is, where the fields that it compares are there. -/
theorem listItems_not (hreach : Reachable s) (hcompiled : f.toPredicate [] = (.ok p, params))
    (hplain : ∀ field ∈ f.fields, ¬ HoldsNul field) :
    ((Filter.not f).toPredicate [] = (.ok (.not p), params) ∧
      ∀ r, selects p params r = .ok (truthOf f r = .yes) ∧
        selects (.not p) params r = .ok (truthOf f r = .no)) ∧
    (∀ ws ws' total total', (listItems f none none).runOn s = (.ok (ws, total), s) →
      (listItems (.not f) none none).runOn s = (.ok (ws', total'), s) →
        ∀ w ∈ ws, ∀ w' ∈ ws', w.id ≠ w'.id) ∧
    (∀ all count, (listItems .all none none).runOn s = (.ok (all, count), s) →
      ∃ ws ws' total total', (listItems f none none).runOn s = (.ok (ws, total), s) ∧
        (listItems (.not f) none none).runOn s = (.ok (ws', total'), s) ∧
        ((∀ w, w ∈ all ↔ w ∈ ws ∨ w ∈ ws') ↔ Decided f s) ∧
        (total + total' = count ↔ Decided f s)) ∧
    ((∀ r ∈ liveItems s, ∀ field ∈ f.compared, Stored.extract r.fieldsText field ≠ .null) →
      Decided f s) := by
  obtain ⟨ops, rfl⟩ := hreach
  have hs : Numbered (run ops empty).2 := numbered_empty.run ops
  have hnot : (Filter.not f).toPredicate [] = (.ok (.not p), params) :=
    Filter.toPredicate_not hcompiled
  have hplain' : ∀ field ∈ (Filter.not f).fields, ¬ HoldsNul field := hplain
  refine ⟨⟨hnot, fun r => ⟨selects_eq_truth hcompiled hplain r, ?_⟩⟩, ?_, ?_, ?_⟩
  · rw [selects_eq_truth hnot hplain' r]
    exact congrArg Except.ok (decide_eq_decide.2 (truthOf_not f r))
  · intro ws ws' total total' hlist hlist'
    rw [listItems_liveWith hcompiled hplain] at hlist
    rw [listItems_liveWith hnot hplain', liveWith_yes_not] at hlist'
    exact ids_ne_of_shownAs hs hlist.2 hlist'.2
  · intro all count hall
    rw [listItems_all_eq_ok_iff] at hall
    obtain ⟨rfl, hall⟩ := hall
    obtain ⟨ws, hyes⟩ := exists_shownAs hall .yes f
    obtain ⟨ws', hno⟩ := exists_shownAs hall .no f
    refine ⟨ws, ws', _, _, (listItems_liveWith hcompiled hplain).2 ⟨rfl, hyes⟩,
      (listItems_liveWith hnot hplain').2 ⟨rfl, (liveWith_yes_not f _).symm ▸ hno⟩,
      mem_shownAs_iff_decided hs hall hyes hno, ?_⟩
    rw [liveWith_yes_not, decided_iff_length]
  · intro hthere r hr
    exact Filter.truth_ne_unknown f hcompiled (hthere r hr)

/-! ## The gap -/

/-- Items with the number one, with the number two and without a number. -/
def sparseRun : List Operation :=
  [.createType none "t" oneNumber, .createItem 0 "t" (Record.ofList [("n", .int 1)]) "u",
    .createItem 0 "t" (Record.ofList [("n", .int 2)]) "u", .createItem 0 "t" .empty "u"]

def isOne : Filter := .compare "n" .eq (.int 1)

theorem toPredicate_isOne :
    isOne.toPredicate [] = (.ok (.compare 1 .eq 2), [.text "$.\"n\"", .int 1]) := rfl

theorem not_holdsNul_isOne : ∀ field ∈ isOne.fields, ¬ HoldsNul field := by
  intro field hfield hnul
  obtain rfl := List.mem_singleton.1 hfield
  obtain ⟨c, hc, hzero⟩ := hnul
  obtain rfl := List.mem_singleton.1 hc
  cases hzero

theorem not_decided_isOne : ¬ Decided isOne (run sparseRun empty).2 := by decide +kernel

/-- All three items are listed. -/
theorem exists_listItems_sparseRun : ∃ all,
    (listItems .all none none).runOn (run sparseRun empty).2 =
      (.ok (all, 3), (run sparseRun empty).2) := by
  have htotal : ((listItems .all none none).runOn (run sparseRun empty).2).1.toOption.map
      Prod.snd = some 3 := by decide +kernel
  have hsame : ((listItems .all none none).runOn (run sparseRun empty).2).2 =
      (run sparseRun empty).2 := readOnly_listItems _ _ _ _
  rcases hlist : (listItems .all none none).runOn (run sparseRun empty).2 with ⟨e | ⟨all, n⟩, s'⟩
  · rw [hlist] at htotal
    cases htotal
  · rw [hlist] at htotal hsame
    obtain rfl : n = 3 := Option.some.inj htotal
    exact ⟨all, by rw [← hsame]⟩

/-- The item without a number is in neither list, so their totals do not add up. -/
theorem listItems_not_sparseRun : ∃ ws ws' total total',
    (listItems isOne none none).runOn (run sparseRun empty).2 =
      (.ok (ws, total), (run sparseRun empty).2) ∧
    (listItems (.not isOne) none none).runOn (run sparseRun empty).2 =
      (.ok (ws', total'), (run sparseRun empty).2) ∧ total + total' ≠ 3 := by
  obtain ⟨all, hall⟩ := exists_listItems_sparseRun
  obtain ⟨-, -, hlists, -⟩ :=
    listItems_not ⟨sparseRun, rfl⟩ toPredicate_isOne not_holdsNul_isOne
  obtain ⟨ws, ws', total, total', hlist, hlist', -, hadd⟩ := hlists all 3 hall
  exact ⟨ws, ws', total, total', hlist, hlist', mt hadd.1 not_decided_isOne⟩

/-- Not every live item is matched by exactly one of a filter and its negation. -/
theorem exists_item_in_neither : ¬ ∀ (s : Store) (f : Filter) (p : Predicate)
    (params : List Datum), Reachable s → f.toPredicate [] = (.ok p, params) →
      (∀ r ∈ liveItems s,
        Xor (selects p params r = .ok true) (selects (.not p) params r = .ok true)) ∧
      ∀ ws ws' all total total' count,
        (listItems f none none).runOn s = (.ok (ws, total), s) →
        (listItems (.not f) none none).runOn s = (.ok (ws', total'), s) →
        (listItems .all none none).runOn s = (.ok (all, count), s) → total + total' = count := by
  intro h
  obtain ⟨hone, -⟩ := h _ isOne _ _ ⟨sparseRun, rfl⟩ toPredicate_isOne
  refine not_decided_isOne fun r hr hunknown => ?_
  have hyes := selects_eq_truth toPredicate_isOne not_holdsNul_isOne r
  have hno := selects_eq_truth (Filter.toPredicate_not toPredicate_isOne) not_holdsNul_isOne r
  have htruth : (Filter.not isOne).truth (Stored.extract r.fieldsText) = .unknown :=
    congrArg Truth.not hunknown
  rw [show isOne.truth (Stored.extract r.fieldsText) = .unknown from hunknown] at hyes
  rw [htruth] at hno
  rcases hone r hr with ⟨hmatched, -⟩ | ⟨hmatched, -⟩
  · rw [hyes] at hmatched
    cases hmatched
  · rw [hno] at hmatched
    cases hmatched

end Store

end Backlog
