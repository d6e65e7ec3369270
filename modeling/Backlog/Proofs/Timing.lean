import Backlog.Timing
import Mathlib.Data.List.Induction
import Mathlib.Data.List.Sort
import Mathlib.Order.Bounds.Basic

/-!
# Percentiles of nearest rank

A report names every operation that was recorded and sums its samples up.

**Main statement (`report_nearest_rank`).** Each name stands in the report once, in the order of
names, with the number of its samples. Its percentiles are those of nearest rank: the least samples
that cover 50, 95 and 99 percent of all. So they ascend, and recording in another order gives the
same report. The place that is looked up is always one of the samples'.

**The rank** is a ceiling, moved down by one and kept within the samples. It lies below a number of
samples exactly if that many are as many percent as asked for (`rank_lt_iff`). In ascending order
the sample at a place is at most `x` exactly if more samples are at most `x` than stand before the
place (`getElem_le_iff_lt_countP`). Both together say which samples cover a percentage: those from
the percentile on (`percentile_le_iff_covers`).
-/

namespace Backlog.Timing

/-! ## What was recorded under a name -/

/-- The durations recorded under a name, in the order of recording. -/
def recorded (samples : List (String × Nat)) (name : String) : List Nat :=
  (samples.filter (·.1 = name)).map Prod.snd

section Recorded

variable {samples others : List (String × Nat)} {name : String} {xs : List Nat}

theorem recorded_concat (samples : List (String × Nat)) (e : String × Nat) (name : String) :
    recorded (samples ++ [e]) name =
      if e.1 = name then recorded samples name ++ [e.2] else recorded samples name := by
  by_cases h : e.1 = name <;> simp [recorded, List.filter_append, h]

theorem recorded_perm (h : others.Perm samples) (name : String) :
    (recorded others name).Perm (recorded samples name) :=
  (h.filter _).map _

theorem grouped_concat (samples : List (String × Nat)) (e : String × Nat) :
    grouped (samples ++ [e]) =
      (grouped samples).insert e.1 (((grouped samples).find? e.1).getD [] ++ [e.2]) := by
  simp only [grouped, List.foldl_append, List.foldl_cons, List.foldl_nil]

/-- The samples of a name are grouped under it as soon as there are any. -/
theorem find?_grouped (samples : List (String × Nat)) (name : String) :
    (grouped samples).find? name =
      if recorded samples name = [] then none else some (recorded samples name) := by
  induction samples using List.reverseRecOn with
  | nil => rfl
  | append_singleton samples e ih =>
    rw [grouped_concat, Record.find?_insert, recorded_concat]
    by_cases h : e.1 = name
    · subst h
      by_cases hnone : recorded samples e.1 = [] <;> simp [ih, hnone]
    · rw [if_neg h, if_neg h, ih]

theorem find?_grouped_eq_some : (grouped samples).find? name = some xs ↔
    recorded samples name ≠ [] ∧ xs = recorded samples name := by
  rw [find?_grouped]
  by_cases h : recorded samples name = [] <;> simp [h, eq_comm]

theorem mem_names_grouped : name ∈ (grouped samples).names ↔ recorded samples name ≠ [] := by
  rw [Record.mem_names_iff, find?_grouped]
  by_cases h : recorded samples name = [] <;> simp [h]

theorem names_grouped_perm (h : others.Perm samples) :
    (grouped others).names = (grouped samples).names := by
  apply List.Pairwise.eq_of_mem_iff (grouped others).sorted (grouped samples).sorted
  intro name
  have hempty : recorded others name = [] ↔ recorded samples name = [] := by
    rw [← List.length_eq_zero_iff, (recorded_perm h name).length_eq, List.length_eq_zero_iff]
  exact mem_names_grouped.trans ((not_congr hempty).trans mem_names_grouped.symm)

end Recorded

/-! ## Ranks -/

section Ranks

variable {n percent k x i : Nat} {l : List Nat}

theorem rank_lt (hn : 0 < n) : rank n percent < n := by
  unfold rank
  omega

/-- A rank is below so many samples exactly if they are as many percent. -/
theorem rank_lt_iff (hn : 0 < n) (hk : 0 < k) :
    rank n percent < k ↔ min percent 100 * n ≤ 100 * k := by
  have hwhole : min percent 100 * n ≤ 100 * n := Nat.mul_le_mul_right n (Nat.min_le_right _ _)
  unfold rank
  generalize min percent 100 * n = part at hwhole
  omega

/-- In ascending order the sample at a place is at most `x` exactly if more samples are at most `x`
than stand before the place. -/
theorem getElem_le_iff_lt_countP (hl : l.Pairwise (· ≤ ·)) (hi : i < l.length) :
    l[i] ≤ x ↔ i < l.countP (· ≤ x) := by
  induction l generalizing i with
  | nil => exact absurd hi (Nat.not_lt_zero i)
  | cons a l ih =>
    obtain ⟨hfirst, hrest⟩ := List.pairwise_cons.1 hl
    by_cases ha : a ≤ x
    · rw [List.countP_cons_of_pos (by simpa using ha)]
      cases i with
      | zero => simp [ha]
      | succ i =>
        rw [List.getElem_cons_succ, ih hrest, Nat.add_lt_add_iff_right]
    · have hlt : x < a := Nat.lt_of_not_le ha
      -- Where the first sample is above `x`, all of them are.
      have habove : ∀ y ∈ a :: l, x < y := by
        rw [List.forall_mem_cons]
        exact ⟨hlt, fun y hy => Nat.lt_of_lt_of_le hlt (hfirst y hy)⟩
      have hcount : (a :: l).countP (· ≤ x) = 0 :=
        List.countP_eq_zero.2 fun y hy => by simpa using habove y hy
      rw [hcount]
      exact iff_of_false (Nat.not_le.2 (habove _ (List.getElem_mem hi))) (Nat.not_lt_zero i)

end Ranks

/-! ## Percentiles -/

/-- So many percent of the samples, or more, are at most the duration. -/
def Covers (samples : List Nat) (percent x : Nat) : Prop :=
  percent * samples.length ≤ 100 * samples.countP (· ≤ x)

/-- The value is the least of the samples that cover the percentage. -/
def NearestRank (samples : List Nat) (percent v : Nat) : Prop :=
  IsLeast {x | x ∈ samples ∧ Covers samples percent x} v

section Percentiles

variable {samples : List Nat} {percent more v w x : Nat}

/-- The percentile of a greater percentage is as great or greater. -/
theorem NearestRank.le (hv : NearestRank samples percent v) (hw : NearestRank samples more w)
    (h : percent ≤ more) : v ≤ w :=
  IsLeast.mono hw hv fun _ hx => ⟨hx.1, (Nat.mul_le_mul_right _ h).trans hx.2⟩

theorem pairwise_mergeSort (samples : List Nat) : samples.mergeSort.Pairwise (· ≤ ·) :=
  List.pairwise_mergeSort' (· ≤ ·) samples

/-- The rank is the place of one of the samples, and the percentile stands there. -/
theorem exists_getElem_rank (hne : samples ≠ []) (percent : Nat) :
    ∃ h : rank samples.length percent < samples.mergeSort.length,
      samples.mergeSort[rank samples.length percent] = percentile samples.mergeSort percent := by
  have hrank : rank samples.length percent < samples.mergeSort.length := by
    rw [List.length_mergeSort]
    exact rank_lt (List.length_pos_iff.2 hne)
  refine ⟨hrank, ?_⟩
  rw [percentile, List.length_mergeSort, List.getElem?_eq_getElem hrank, Option.getD_some]

/-- The samples that cover a percentage are those from its percentile on. -/
theorem percentile_le_iff_covers (hx : x ∈ samples) :
    percentile samples.mergeSort percent ≤ x ↔ Covers samples (min percent 100) x := by
  have hne : samples ≠ [] := List.ne_nil_of_mem hx
  have hcount : samples.mergeSort.countP (· ≤ x) = samples.countP (· ≤ x) :=
    (List.mergeSort_perm samples _).countP_eq _
  have hpos : 0 < samples.countP (· ≤ x) := List.countP_pos_iff.2 ⟨x, hx, by simp⟩
  obtain ⟨hrank, heq⟩ := exists_getElem_rank hne percent
  rw [← heq, getElem_le_iff_lt_countP (pairwise_mergeSort samples), hcount,
    rank_lt_iff (List.length_pos_iff.2 hne) hpos, Covers]

theorem nearestRank_percentile (hne : samples ≠ []) (percent : Nat) :
    NearestRank samples (min percent 100) (percentile samples.mergeSort percent) := by
  have hmem : percentile samples.mergeSort percent ∈ samples := by
    obtain ⟨hrank, heq⟩ := exists_getElem_rank hne percent
    rw [← heq]
    exact List.mem_mergeSort.1 (List.getElem_mem hrank)
  exact ⟨⟨hmem, (percentile_le_iff_covers hmem).1 (Nat.le_refl _)⟩,
    fun x hx => (percentile_le_iff_covers hx.1).2 hx.2⟩

end Percentiles

/-! ## Summaries -/

/-- A summary gives the number of the samples and their percentiles of nearest rank. -/
structure Summarizes (o : OperationTiming) (samples : List Nat) : Prop where
  count : o.count = samples.length
  p50 : NearestRank samples 50 o.p50
  p95 : NearestRank samples 95 o.p95
  p99 : NearestRank samples 99 o.p99

theorem summarizes_summary (name : String) {samples : List Nat} (hne : samples ≠ []) :
    Summarizes (summary name samples) samples where
  count := rfl
  p50 := nearestRank_percentile hne 50
  p95 := nearestRank_percentile hne 95
  p99 := nearestRank_percentile hne 99

theorem summary_perm {samples others : List Nat} (h : others.Perm samples) (name : String) :
    summary name others = summary name samples := by
  have hperm : others.mergeSort.Perm samples.mergeSort :=
    (List.mergeSort_perm others _).trans (h.trans (List.mergeSort_perm samples _).symm)
  have hsorted : others.mergeSort = samples.mergeSort :=
    hperm.eq_of_pairwise' (pairwise_mergeSort others) (pairwise_mergeSort samples)
  rw [summary, summary, hsorted, h.length_eq]

/-! ## Reports -/

section Reports

variable {samples others : List (String × Nat)} {o : OperationTiming}

theorem operations_report (samples : List (String × Nat)) : (report samples).operations =
    (grouped samples).names.map fun name => summary name (recorded samples name) := by
  rw [report, Record.names, List.map_map]
  apply List.map_congr_left
  intro e he
  obtain ⟨-, hxs⟩ := find?_grouped_eq_some.1 (Record.mem_entries_iff.1 he)
  rw [Function.comp_apply, hxs]

theorem names_report (samples : List (String × Nat)) :
    (report samples).operations.map OperationTiming.name = (grouped samples).names := by
  rw [operations_report, List.map_map]
  exact List.map_id _

theorem mem_operations_report : o ∈ (report samples).operations ↔
    recorded samples o.name ≠ [] ∧ o = summary o.name (recorded samples o.name) := by
  rw [operations_report, List.mem_map]
  apply Iff.intro
  · rintro ⟨name, hname, rfl⟩
    exact ⟨mem_names_grouped.1 hname, rfl⟩
  · rintro ⟨hne, ho⟩
    exact ⟨o.name, mem_names_grouped.2 hne, ho.symm⟩

theorem report_perm (h : others.Perm samples) : report others = report samples := by
  have hoperations : (report others).operations = (report samples).operations := by
    rw [operations_report, operations_report, names_grouped_perm h]
    exact List.map_congr_left fun name _ => summary_perm (recorded_perm h name) name
  exact congrArg TimingReport.mk hoperations

/-- **A report gives the percentiles of nearest rank.** Its names are those that were recorded, each
once and in order. Every operation counts its samples, and its percentiles are the least of them
that cover 50, 95 and 99 percent, which ascend; for any percentage the rank is the place of such a
sample. A report does not depend on the order in which its samples were recorded. -/
theorem report_nearest_rank (samples : List (String × Nat)) :
    ((report samples).operations.map OperationTiming.name).Pairwise (· < ·) ∧
    (∀ name, name ∈ (report samples).operations.map OperationTiming.name ↔
      recorded samples name ≠ []) ∧
    (∀ o ∈ (report samples).operations, let xs := recorded samples o.name
      Summarizes o xs ∧ o.p50 ≤ o.p95 ∧ o.p95 ≤ o.p99 ∧
      ∀ percent, ∃ h : rank xs.length percent < xs.mergeSort.length,
        NearestRank xs (min percent 100) xs.mergeSort[rank xs.length percent]) ∧
    ∀ others, others.Perm samples → report others = report samples := by
  refine ⟨?_, fun name => ?_, fun o ho => ?_, fun others => report_perm⟩
  · rw [names_report]
    exact (grouped samples).sorted
  · rw [names_report]
    exact mem_names_grouped
  · obtain ⟨hne, hsummary⟩ := mem_operations_report.1 ho
    have hsum : Summarizes o (recorded samples o.name) := by
      rw [hsummary]
      exact summarizes_summary _ hne
    refine ⟨hsum, hsum.p50.le hsum.p95 (by decide), hsum.p95.le hsum.p99 (by decide), ?_⟩
    intro percent
    obtain ⟨hrank, heq⟩ := exists_getElem_rank hne percent
    exact ⟨hrank, heq.symm ▸ nearestRank_percentile hne percent⟩

/-- Two operations by turns, their samples out of order and one of them twice. -/
def mixedSamples : List (String × Nat) :=
  [("save", 9), ("load", 5), ("save", 1), ("load", 5), ("load", 2)]

/-- One of the two samples of saving covers half of them, and the report is the same the other way
round. -/
theorem report_nearest_rank_mixedSamples :
    (⟨"save", 2, 1, 9, 9⟩ : OperationTiming) ∈ (report mixedSamples).operations ∧
    NearestRank [9, 1] 50 1 ∧ NearestRank [9, 1] 95 9 ∧
    mixedSamples.reverse.Perm mixedSamples ∧
    report mixedSamples.reverse = report mixedSamples := by
  have hrecorded : recorded mixedSamples "save" = [9, 1] := by decide
  have hsorted : [9, 1].mergeSort = [1, 9] := List.mergeSort_eq_insertionSort (· ≤ ·) [9, 1]
  have hsave : ⟨"save", 2, 1, 9, 9⟩ ∈ (report mixedSamples).operations := by
    rw [mem_operations_report, hrecorded, summary, hsorted]
    decide
  have hperm : mixedSamples.reverse.Perm mixedSamples := List.reverse_perm _
  obtain ⟨-, -, hoperations, horder⟩ := report_nearest_rank mixedSamples
  obtain ⟨hsum, -⟩ := hoperations _ hsave
  rw [hrecorded] at hsum
  exact ⟨hsave, hsum.p50, hsum.p95, hperm, horder _ hperm⟩

end Reports

end Backlog.Timing
