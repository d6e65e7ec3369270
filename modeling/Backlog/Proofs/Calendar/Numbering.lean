import Backlog.Calendar.Date
import Mathlib.Tactic.IntervalCases

/-!
# Day numbers and dates give each other

**Main statements.** `dayNumber_ofDayNumber`: the date of a day number has that number.
`ofDayNumber_isValid`: the date is one that the calendar has, in every year that it covers.

The 400 years after which the calendar repeats are taken apart by division (`IsCycleDay`): into
centuries, stretches of four years, years and days. `yearOfCycle_eq` compares these parts with the
one division that `ofDayNumber` makes. The months of a year from March begin at multiples of 153/5
days, rounded, so a day and its month and day of the month follow from each other.
-/

namespace Backlog.Date

/-! ## Days of the 400 years -/

/-- A day of the 400 years by its century, the four years in it, the year of those and the day of
that year, which starts in March. -/
structure IsCycleDay (c q k d : Int) : Prop where
  century : 0 ≤ c ∧ c ≤ 3
  quad : 0 ≤ q ∧ q ≤ 24
  year : 0 ≤ k ∧ k ≤ 3
  day : 0 ≤ d ∧ d ≤ 365
  leap : d = 365 → k = 3 ∧ (q = 24 → c = 3)

theorem exists_cycleDay {n : Int} (h0 : 0 ≤ n) (h1 : n < 146097) :
    ∃ c q k d, IsCycleDay c q k d ∧ n = 36524 * c + 1461 * q + 365 * k + d := by
  obtain ⟨c, hc, hr⟩ : ∃ c, (0 ≤ c ∧ c ≤ 3) ∧ 0 ≤ n - 36524 * c ∧
      n - 36524 * c ≤ (if c = 3 then 36524 else 36523) :=
    ⟨min (n / 36524) 3, by omega, by omega, by split <;> omega⟩
  obtain ⟨k, hk, hd⟩ : ∃ k, (0 ≤ k ∧ k ≤ 3) ∧ 0 ≤ (n - 36524 * c) % 1461 - 365 * k ∧
      (n - 36524 * c) % 1461 - 365 * k ≤ (if k = 3 then 365 else 364) :=
    ⟨min ((n - 36524 * c) % 1461 / 365) 3, by omega, by omega, by split <;> omega⟩
  refine ⟨c, (n - 36524 * c) / 1461, k, (n - 36524 * c) % 1461 - 365 * k,
    ⟨hc, ?_, hk, ?_, ?_⟩, by omega⟩
  · split at hr <;> omega
  · split at hd <;> omega
  · intro h
    split at hd <;> split at hr <;> omega

theorem yearOfCycle_eq {c q k d : Int} (h : IsCycleDay c q k d) :
    let n := 36524 * c + 1461 * q + 365 * k + d
    (n - n / 1460 + n / 36524 - n / 146096) / 365 = 100 * c + 4 * q + k := by
  obtain ⟨hc, hq, hk, hd, hl⟩ := h
  intro n
  -- what the last days of the four years carry over
  obtain ⟨e, he, h4⟩ : ∃ e, (e = 0 ∨ e = 1) ∧ n / 1460 = 25 * c + q + e :=
    ⟨(24 * c + q + 365 * k + d) / 1460, by omega, by omega⟩
  by_cases hend : q = 24 ∧ d = 365
  · obtain ⟨rfl, rfl⟩ := hend
    obtain ⟨rfl, hcq⟩ := hl rfl
    obtain rfl := hcq rfl
    decide
  · have h100 : n / 36524 = c := by omega
    have h400 : n / 146096 = 0 := by omega
    have hlast : d = 365 → e = 1 := by omega
    have hfirst : e = 1 → 1 ≤ d := by omega
    rw [h4, h100, h400]
    omega

theorem leapYears_eq {c q k d : Int} (h : IsCycleDay c q k d) :
    (100 * c + 4 * q + k) / 4 = 25 * c + q ∧ (100 * c + 4 * q + k) / 100 = c := by
  obtain ⟨hc, hq, hk, -, -⟩ := h
  omega

/-- The days before a year of the 400 years, taken off, leave the day of that year. -/
theorem dayOfYear_eq {c q k d : Int} (h : IsCycleDay c q k d) :
    let y := 100 * c + 4 * q + k
    36524 * c + 1461 * q + 365 * k + d - (365 * y + y / 4 - y / 100) = d := by
  obtain ⟨h4, h100⟩ := leapYears_eq h
  simp only [h4, h100]
  omega

/-! ## Days and months of a year -/

/-- The month that the day `d` of a year from March falls into, counted from March. -/
def monthFromMarch (d : Int) : Int := (5 * d + 2) / 153

/-- The month that is `m` months after March. -/
def calendarMonth (m : Int) : Int := if m < 10 then m + 3 else m - 9

/-- The day of its month that the day `d` of a year from March is. -/
def dayOfMonth (d : Int) : Int := d - (153 * monthFromMarch d + 2) / 5 + 1

theorem monthFromMarch_bounds {d : Int} (h0 : 0 ≤ d) (h1 : d ≤ 365) :
    0 ≤ monthFromMarch d ∧ monthFromMarch d ≤ 11 := by
  unfold monthFromMarch
  omega

theorem calendarMonth_bounds {m : Int} (h0 : 0 ≤ m) (h1 : m ≤ 11) :
    1 ≤ calendarMonth m ∧ calendarMonth m ≤ 12 := by
  unfold calendarMonth
  split <;> omega

/-- Counting the months from March undoes naming them. -/
theorem fromMarch_calendarMonth {m : Int} (h0 : 0 ≤ m) (h1 : m ≤ 11) :
    (if calendarMonth m ≤ 2 then calendarMonth m + 9 else calendarMonth m - 3) = m := by
  unfold calendarMonth
  split <;> split <;> omega

/-- Every month but February is as long as the days up to the next month say. -/
theorem monthLength_eq {m : Int} (year : Int) (h0 : 0 ≤ m) (h1 : m ≤ 10) :
    monthLength year (calendarMonth m) = (153 * (m + 1) + 2) / 5 - (153 * m + 2) / 5 := by
  interval_cases m <;> rfl

theorem monthLength_february (year : Int) :
    monthLength year (calendarMonth 11) = if isLeap year then 29 else 28 := rfl

/-- Every day lies in its month; the 29th of February is the last day of the longest year. -/
theorem dayOfMonth_bounds {d : Int} (h0 : 0 ≤ d) (h1 : d ≤ 365) (year : Int)
    (hleap : d = 365 → isLeap year = true) :
    1 ≤ dayOfMonth d ∧ dayOfMonth d ≤ monthLength year (calendarMonth (monthFromMarch d)) := by
  obtain ⟨hm0, hm1⟩ := monthFromMarch_bounds h0 h1
  have hm : monthFromMarch d = (5 * d + 2) / 153 := rfl
  unfold dayOfMonth
  generalize monthFromMarch d = m at hm hm0 hm1
  by_cases hfeb : m = 11
  · subst hfeb
    rw [monthLength_february]
    by_cases hend : d = 365
    · simp only [hleap hend, if_true]
      omega
    · split <;> omega
  · rw [monthLength_eq year hm0 (by omega)]
    omega

/-! ## Numbers and dates -/

/-- The date of a day number, by the parts of the day within its 400 years. -/
theorem ofDayNumber_eq {n c q k d : Int} (h : IsCycleDay c q k d)
    (hn : (n + 719468) % 146097 = 36524 * c + 1461 * q + 365 * k + d) :
    ofDayNumber n =
      let y := 400 * ((n + 719468) / 146097) + (100 * c + 4 * q + k)
      ⟨if calendarMonth (monthFromMarch d) ≤ 2 then y + 1 else y,
        calendarMonth (monthFromMarch d), dayOfMonth d⟩ := by
  have hy := yearOfCycle_eq h
  have hd := dayOfYear_eq h
  simp only [ofDayNumber, hn, hy, hd]
  rfl

theorem exists_parts (n : Int) : ∃ c q k d, IsCycleDay c q k d ∧
    (n + 719468) % 146097 = 36524 * c + 1461 * q + 365 * k + d :=
  exists_cycleDay (by omega) (by omega)

/-- A day number and its date give each other. -/
theorem dayNumber_ofDayNumber (n : Int) : (ofDayNumber n).dayNumber = n := by
  obtain ⟨c, q, k, d, h, hn⟩ := exists_parts n
  rw [ofDayNumber_eq h hn]
  have hy := dayOfYear_eq h
  obtain ⟨hc, hq, hk, hd, -⟩ := h
  obtain ⟨hm0, hm1⟩ := monthFromMarch_bounds hd.1 hd.2
  have hmonth := fromMarch_calendarMonth hm0 hm1
  have hyear (y : Int) (p : Prop) [Decidable p] :
      (if p then (if p then y + 1 else y) - 1 else if p then y + 1 else y) = y := by
    split <;> omega
  have hcycle (y : Int) (h0 : 0 ≤ y) (h1 : y < 400) :
      (400 * ((n + 719468) / 146097) + y) / 400 = (n + 719468) / 146097 ∧
        (400 * ((n + 719468) / 146097) + y) % 400 = y := by
    omega
  obtain ⟨hdiv, hmod⟩ := hcycle (100 * c + 4 * q + k) (by omega) (by omega)
  simp only [dayNumber, dayOfCycle, hyear, hmonth, dayOfMonth, hdiv, hmod]
  omega

/-- The days are counted from the beginning of the year 1970. -/
example : ofDayNumber 0 = ⟨1970, 1, 1⟩ ∧ dayNumber ⟨1970, 1, 1⟩ = 0 := by decide

/-- Every day number has a date that the calendar has, as far as its year does. -/
theorem ofDayNumber_isValid {n : Int} (hmin : minYear ≤ (ofDayNumber n).year)
    (hmax : (ofDayNumber n).year ≤ maxYear) : (ofDayNumber n).IsValid := by
  refine ⟨hmin, hmax, ?_⟩
  obtain ⟨c, q, k, d, h, hn⟩ := exists_parts n
  rw [ofDayNumber_eq h hn]
  obtain ⟨hc, hq, hk, hd, hl⟩ := h
  obtain ⟨hm0, hm1⟩ := monthFromMarch_bounds hd.1 hd.2
  obtain ⟨hc0, hc1⟩ := calendarMonth_bounds hm0 hm1
  refine ⟨hc0, hc1, dayOfMonth_bounds hd.1 hd.2 _ fun hend => ?_⟩
  obtain ⟨rfl, hcq⟩ := hl hend
  have hfeb : calendarMonth (monthFromMarch d) ≤ 2 := by subst hend; decide
  simp only [hfeb, if_true, isLeap, Bool.and_eq_true, Bool.or_eq_true, decide_eq_true_eq]
  by_cases hq24 : q = 24
  · have := hcq hq24
    omega
  · omega

/-! ## Years and day numbers -/

/-- The days of the years 0 to 9999 are those from the first of January of the year 0 up to the
first of January of the year 10000. -/
theorem year_ofDayNumber_plain_iff (n : Int) :
    (0 ≤ (ofDayNumber n).year ∧ (ofDayNumber n).year ≤ 9999) ↔
      dayNumber ⟨0, 1, 1⟩ ≤ n ∧ n < dayNumber ⟨10000, 1, 1⟩ := by
  have hfirst : dayNumber ⟨0, 1, 1⟩ = -719528 := by decide
  have hend : dayNumber ⟨10000, 1, 1⟩ = 2932897 := by decide
  obtain ⟨c, q, k, d, h, hn⟩ := exists_parts n
  rw [ofDayNumber_eq h hn, hfirst, hend]
  obtain ⟨hc, hq, hk, hd, -⟩ := h
  -- January and February belong to the year before, counted from March
  have hjanuary : calendarMonth (monthFromMarch d) ≤ 2 ↔ 306 ≤ d := by
    unfold calendarMonth monthFromMarch
    split <;> omega
  simp only [hjanuary]
  -- the years 0 to 9999 fill whole cycles, so the cycle decides but for its last months
  rcases Int.lt_or_le ((n + 719468) / 146097) 0 with hfirst | hfirst
  · split <;> omega
  · rcases Int.lt_or_le ((n + 719468) / 146097) 25 with hlast | hlast
    · split <;> omega
    · split <;> omega

/-- A rough bound on the number of a day in a year of at most four digits. -/
theorem dayNumber_bounds {d : Date} (hy0 : 0 ≤ d.year) (hy1 : d.year ≤ 9999) (h : d.IsValid) :
    -800000 ≤ d.dayNumber ∧ d.dayNumber ≤ 3000000 := by
  obtain ⟨-, -, hm0, hm1, hd0, hd1⟩ := h
  have hday : d.day ≤ 31 := by
    simp only [monthLength] at hd1
    split at hd1 <;> split at hd1 <;> omega
  simp only [dayNumber, dayOfCycle]
  split <;> omega

end Backlog.Date
