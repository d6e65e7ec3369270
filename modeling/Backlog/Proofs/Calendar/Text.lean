import Backlog.Calendar.Printer
import Backlog.Calendar.Reader
import Backlog.Proofs.Calendar.Numbering
import Backlog.Proofs.Number.Digits
import Backlog.Proofs.Result

/-!
# Printed moments read back

**Main statements.** `readStrict_microText`: the stored form of a moment in a year of four digits
is read as that moment. `readStrict_microText_ne_ok`: in every other year it is not read at all,
because the year has a sign.
-/

namespace Backlog.Moment

/-! ## Numbers of a fixed width -/

theorem isDigits_padded (width n : Nat) : IsDigits (padded width n) :=
  (IsDigits.zeros _).append (.toDigits n)

theorem length_padded {width n : Nat} (hw : 0 < width) (h : n < 10 ^ width) :
    (padded width n).length = width := by
  have hle : (Nat.toDigits 10 n).length ≤ width := (Nat.length_toDigits_le_iff (by decide) hw).2 h
  simp only [padded, List.length_append, List.length_replicate]
  omega

theorem ofDigits_padded (width n : Nat) : Decimal.ofDigits (padded width n) = n := by
  rw [padded, Decimal.ofDigits_append, Decimal.ofDigits_zeros, Decimal.ofDigits_toDigits,
    Nat.mul_zero, Nat.zero_add]

/-- A number of its full width is read, whatever follows it. -/
theorem fixedNumber_padded {width n : Nat} (hw : 0 < width) (h : n < 10 ^ width)
    (rest : List Char) : fixedNumber width (padded width n ++ rest) = .ok (n, rest) := by
  have hlen := length_padded hw h
  have hfront : ((padded width n ++ rest).takeWhile Char.isDigit).take width = padded width n := by
    rw [List.takeWhile_append_of_pos (isDigits_padded width n), List.take_append_of_le_length
      (Nat.le_of_eq hlen.symm), List.take_of_length_le (Nat.le_of_eq hlen)]
  have hrest : (padded width n ++ rest).drop width = rest := by
    rw [List.drop_append_of_le_length (Nat.le_of_eq hlen.symm),
      List.drop_of_length_le (Nat.le_of_eq hlen), List.nil_append]
  simp only [fixedNumber, hfront, hlen, if_true, ofDigits_padded, hrest]

theorem fixedNumber_ne_ok {width : Nat} (hw : 0 < width) {c : Char} (hc : c.isDigit = false)
    (rest : List Char) (r : Nat × List Char) : fixedNumber width (c :: rest) ≠ .ok r := by
  simp only [fixedNumber, List.takeWhile_cons, hc, Bool.false_eq_true, if_false, List.take_nil,
    List.length_nil, List.length_cons]
  split
  · omega
  · split <;> simp

theorem lt_of_fixedNumber {width n : Nat} {cs rest : List Char}
    (h : fixedNumber width cs = .ok (n, rest)) : n < 10 ^ width := by
  simp only [fixedNumber] at h
  split at h
  next hlen =>
    simp only [Except.ok.injEq, Prod.mk.injEq] at h
    have hlt := Decimal.ofDigits_lt ((IsDigits.takeWhile cs).take width)
    rwa [h.1, hlen] at hlt
  · split at h <;> cases h

/-- Six digits behind a point are microseconds. -/
theorem fraction_padded {u : Nat} (h : u < 1000000) (rest : List Char) (hr : EndsDigits rest) :
    fraction ('.' :: (padded 6 u ++ rest)) = .ok (1000 * u, rest) := by
  have hlen : (padded 6 u).length = 6 := length_padded (by decide) h
  have hne : padded 6 u ≠ [] := List.ne_nil_of_length_pos (by omega)
  have hnine : (padded 6 u ++ List.replicate 9 '0').take 9 = padded 6 u ++ ['0', '0', '0'] := by
    rw [List.take_append, List.take_of_length_le (by omega), hlen]
    rfl
  have hdrop : (padded 6 u ++ rest).drop 6 = rest := by
    rw [List.drop_append_of_le_length (by omega), List.drop_of_length_le (by omega),
      List.nil_append]
  simp only [fraction, (isDigits_padded 6 u).takeWhile_append hr, hnine, hlen, hdrop,
    Decimal.ofDigits_append, ofDigits_padded, List.isEmpty_iff, hne, List.append_eq_nil_iff,
    false_and, if_false]
  rfl

/-- A fraction of the second has less than a thousand million nanoseconds. -/
theorem lt_of_fraction {n : Nat} {cs rest : List Char} (h : fraction cs = .ok (n, rest)) :
    n < 1000000000 := by
  rw [fraction.eq_def] at h
  split at h
  next cs =>
    simp only at h
    split at h
    · cases h
    split at h
    · cases h
    simp only [Except.ok.injEq, Prod.mk.injEq] at h
    rw [← h.1]
    have hnine := Decimal.ofDigits_lt (((IsDigits.takeWhile cs).append (.zeros 9)).take 9)
    exact Nat.lt_of_lt_of_le hnine (Nat.pow_le_pow_right (n := 10) (by decide)
      (List.length_take_le 9 _))
  · simp only [Except.ok.injEq, Prod.mk.injEq] at h
    omega

/-! ## The size of a text -/

/-- A byte at least for every character. -/
theorem length_le_utf8ByteSize (cs : List Char) : cs.length ≤ (String.ofList cs).utf8ByteSize := by
  induction cs with
  | nil => simp
  | cons c cs ih =>
    have hcons : String.ofList (c :: cs) = String.singleton c ++ String.ofList cs := by
      rw [String.singleton_eq_ofList, ← String.ofList_append]
      rfl
    rw [hcons, String.utf8ByteSize_append, String.utf8ByteSize_singleton, List.length_cons]
    have := c.utf8Size_pos
    omega

theorem literal_cons (c : Char) (rest : List Char) : literal c (c :: rest) = .ok ((), rest) := by
  rw [literal, if_pos rfl]

theorem separator_T (rest : List Char) : separator ('T' :: rest) = .ok ((), rest) := by
  simp [separator]

/-! ## The stored form -/

/-- Date, time of day and microseconds, each of its full width, in universal time. -/
def storedChars (year month day hour minute second micros : Nat) : List Char :=
  padded 4 year ++ '-' :: (padded 2 month ++ '-' :: (padded 2 day ++ 'T' :: (padded 2 hour ++
    ':' :: (padded 2 minute ++ ':' :: (padded 2 second ++ '.' :: (padded 6 micros ++ ['Z']))))))

theorem length_storedChars {year month day hour minute second micros : Nat} (hy : year < 10 ^ 4)
    (hmo : month < 10 ^ 2) (hd : day < 10 ^ 2) (hh : hour < 10 ^ 2) (hmi : minute < 10 ^ 2)
    (hs : second < 10 ^ 2) (hu : micros < 10 ^ 6) :
    (storedChars year month day hour minute second micros).length = 27 := by
  simp only [storedChars, List.length_append, List.length_cons, List.length_nil,
    length_padded (by decide) hy, length_padded (by decide) hmo, length_padded (by decide) hd,
    length_padded (by decide) hh, length_padded (by decide) hmi, length_padded (by decide) hs,
    length_padded (by decide) hu]

theorem readStrict_storedChars {year month day hour minute second micros : Nat}
    (hy : year < 10 ^ 4) (hdate : Date.IsValid ⟨year, month, day⟩) (hh : hour ≤ 23)
    (hmi : minute ≤ 59) (hs : second ≤ 59) (hu : micros < 10 ^ 6) :
    readStrict (String.ofList (storedChars year month day hour minute second micros)) =
      .ok (ofLocal ⟨year, month, day⟩ hour minute second (1000 * micros) 0) := by
  have hmo : month < 10 ^ 2 := by
    obtain ⟨-, -, -, h, -⟩ := hdate
    simp only at h
    omega
  have hd : day < 10 ^ 2 := by
    obtain ⟨-, -, -, -, -, h⟩ := hdate
    simp only [Date.monthLength] at h
    split at h <;> split at h <;> omega
  have hsize : ¬ (String.ofList (storedChars year month day hour minute second micros)).utf8ByteSize
      < 19 := by
    have := length_le_utf8ByteSize (storedChars year month day hour minute second micros)
    rw [length_storedChars hy hmo hd (by omega) (by omega) (by omega) hu] at this
    omega
  have hclock : ¬ (23 < hour ∨ 59 < minute ∨ 60 < second) := by omega
  unfold readStrict
  rw [if_neg hsize, String.toList_ofList, storedChars]
  simp only [fixedNumber_padded (by decide) hy, fixedNumber_padded (by decide) hmo,
    fixedNumber_padded (by decide) hd, literal_cons, ok_bind]
  rw [if_neg (not_not.2 hdate)]
  simp only [separator_T, literal_cons, ok_bind,
    fixedNumber_padded (by decide) (by omega : hour < 10 ^ 2),
    fixedNumber_padded (by decide) (by omega : minute < 10 ^ 2),
    fixedNumber_padded (by decide) (by omega : second < 10 ^ 2),
    fraction_padded hu ['Z'] (by simp [EndsDigits])]
  rw [if_neg hclock]
  rfl

/-! ## Reading what was printed -/

/-- The year of the moment, in universal time, is written in four digits without a sign. -/
def HasPlainYear (t : Moment) : Prop := 0 ≤ t.date.year ∧ t.date.year ≤ 9999

instance (t : Moment) : Decidable t.HasPlainYear := by unfold HasPlainYear; infer_instance

theorem yearChars_plain {year : Int} (h : 0 ≤ year ∧ year ≤ 9999) :
    yearChars year = padded 4 year.toNat := if_pos h

theorem yearChars_signed {year : Int} (h : ¬ (0 ≤ year ∧ year ≤ 9999)) :
    ∃ c digits, c.isDigit = false ∧ yearChars year = c :: digits := by
  refine ⟨if year < 0 then '-' else '+', padded 4 year.natAbs, ?_, if_neg h⟩
  split <;> rfl

theorem microText_plain {t : Moment} (h : t.HasPlainYear) (hn : t.nanos < 1000000000) :
    t.microText = String.ofList (storedChars t.date.year.toNat t.date.month.toNat t.date.day.toNat
      t.hour t.minute t.second (t.nanos / 1000)) := by
  simp only [microText, secondChars, yearChars_plain h, storedChars, Nat.mod_eq_of_lt hn,
    List.append_assoc, List.cons_append]

/-- The parts of a moment that is not in a leap second give it back. -/
theorem ofLocal_parts {t : Moment} (hn : t.nanos < 1000000000) :
    ofLocal t.date t.hour t.minute t.second t.nanos 0 = t := by
  have hsecond : t.second = (t.seconds % 86400).toNat % 60 := by
    rw [second, Nat.div_eq_of_lt hn, Nat.add_zero]
  have hleap : t.second ≠ 60 := by omega
  have hclock : 3600 * (t.hour : Int) + 60 * (t.minute : Int) + (t.second : Int) =
      t.seconds % 86400 := by
    rw [hsecond, hour, minute]
    omega
  rw [ofLocal, if_neg hleap, if_neg hleap, date, Date.dayNumber_ofDayNumber, hclock]
  congr 1
  omega

/-- The stored form of a moment in a year of four digits is read as that moment. -/
theorem readStrict_microText {t : Moment} (h : t.HasPlainYear) (hn : t.nanos < 1000000000)
    (hk : 1000 ∣ t.nanos) : readStrict t.microText = .ok t := by
  obtain ⟨hy0, hy1⟩ := h
  have hvalid : t.date.IsValid := Date.ofDayNumber_isValid
    (Int.le_trans (by decide) hy0) (Int.le_trans hy1 (by decide))
  obtain ⟨-, -, hmo, -, hd, -⟩ := id hvalid
  have hdate : (⟨(t.date.year.toNat : Int), (t.date.month.toNat : Int), (t.date.day.toNat : Int)⟩ :
      Date) = t.date := by
    rw [Int.toNat_of_nonneg hy0, Int.toNat_of_nonneg (by omega), Int.toNat_of_nonneg (by omega)]
  have hsecond : t.second ≤ 59 := by
    rw [second, Nat.div_eq_of_lt hn]
    omega
  rw [microText_plain ⟨hy0, hy1⟩ hn, readStrict_storedChars (by omega) (hdate ▸ hvalid)
    (by rw [hour]; omega) (by rw [minute]; omega) hsecond (by omega), hdate,
    Nat.mul_div_cancel' hk, ofLocal_parts hn]

/-- A text that does not start with a digit is no moment. -/
theorem readStrict_ne_ok {c : Char} (hc : c.isDigit = false) (rest : List Char) (t : Moment) :
    readStrict (String.ofList (c :: rest)) ≠ .ok t := by
  intro h
  unfold readStrict at h
  split at h
  · cases h
  · rw [String.toList_ofList] at h
    obtain ⟨r, hr, -⟩ := bind_eq_ok.1 h
    exact fixedNumber_ne_ok (by decide) hc rest r hr

theorem readStrict_microText_ne_ok {t : Moment} (h : ¬ t.HasPlainYear) (u : Moment) :
    readStrict t.microText ≠ .ok u := by
  obtain ⟨c, digits, hc, hyear⟩ := yearChars_signed h
  simp only [microText, secondChars, hyear, List.cons_append]
  exact readStrict_ne_ok hc _ u

/-! ## What reading gives -/

/-- A moment that is read has a date in a year of four digits, a time of day, and an offset of
less than a day. -/
theorem readStrict_eq_ok {s : String} {t : Moment} (h : readStrict s = .ok t) :
    ∃ d hour minute second nanos offset, (0 ≤ d.year ∧ d.year ≤ 9999) ∧ d.IsValid ∧
      (hour ≤ 23 ∧ minute ≤ 59 ∧ second ≤ 60) ∧ nanos < 1000000000 ∧
      (-86400 < offset ∧ offset < 86400) ∧ t = ofLocal d hour minute second nanos offset := by
  unfold readStrict at h
  split at h
  · cases h
  obtain ⟨⟨year, cs⟩, hyear, h⟩ := bind_eq_ok.1 h
  obtain ⟨⟨_, cs⟩, -, h⟩ := bind_eq_ok.1 h
  obtain ⟨⟨month, cs⟩, -, h⟩ := bind_eq_ok.1 h
  obtain ⟨⟨_, cs⟩, -, h⟩ := bind_eq_ok.1 h
  obtain ⟨⟨day, cs⟩, -, h⟩ := bind_eq_ok.1 h
  simp only at h
  split at h
  · cases h
  next hdate =>
  obtain ⟨⟨_, cs⟩, -, h⟩ := bind_eq_ok.1 h
  obtain ⟨⟨hour, cs⟩, -, h⟩ := bind_eq_ok.1 h
  obtain ⟨⟨_, cs⟩, -, h⟩ := bind_eq_ok.1 h
  obtain ⟨⟨minute, cs⟩, -, h⟩ := bind_eq_ok.1 h
  obtain ⟨⟨_, cs⟩, -, h⟩ := bind_eq_ok.1 h
  obtain ⟨⟨second, cs⟩, -, h⟩ := bind_eq_ok.1 h
  obtain ⟨⟨nanos, cs⟩, hnanos, h⟩ := bind_eq_ok.1 h
  simp only at h
  split at h
  · cases h
  next hclock =>
  obtain ⟨⟨seconds, cs⟩, -, h⟩ := bind_eq_ok.1 h
  simp only at h
  split at h
  · cases h
  obtain ⟨_, hoffset, h⟩ := bind_eq_ok.1 h
  have hlt := lt_of_fixedNumber hyear
  refine ⟨_, hour, minute, second, nanos, seconds, ?_, not_not.1 hdate, by omega,
    lt_of_fraction hnanos, ?_, ?_⟩
  · simp only
    omega
  · simp only [checkOffset] at hoffset
    split at hoffset
    · assumption
    · cases hoffset
  · cases h
    rfl

/-- The calendar reaches beyond every moment that is read, a leap second or an offset included. -/
theorem ofMicros?_micros_of_readStrict {s : String} {t : Moment} (h : readStrict s = .ok t) :
    ∃ u, ofMicros? t.micros = some u := by
  obtain ⟨d, hour, minute, second, nanos, offset, hyear, hdate, hclock, hnanos, hoffset, rfl⟩ :=
    readStrict_eq_ok h
  have hday := Date.dayNumber_bounds hyear.1 hyear.2 hdate
  refine ⟨_, if_pos ?_⟩
  simp only [InRange, minSeconds_eq, maxSeconds_eq, micros, ofLocal]
  split <;> omega

/-! ## Counts of microseconds -/

/-- A count of microseconds lies in the years 0 to 9999 of universal time. -/
def InPlainYears (us : Int) : Prop :=
  86400000000 * Date.dayNumber ⟨0, 1, 1⟩ ≤ us ∧ us < 86400000000 * Date.dayNumber ⟨10000, 1, 1⟩

instance (us : Int) : Decidable (InPlainYears us) := by unfold InPlainYears; infer_instance

theorem ofMicros?_eq_some {us : Int} {t : Moment} :
    ofMicros? us = some t ↔ t.InRange ∧ t = ⟨us / 1000000, (us % 1000000).toNat * 1000⟩ := by
  simp only [ofMicros?, Option.ite_none_right_eq_some, Option.some.injEq]
  constructor
  · intro h
    obtain ⟨h, rfl⟩ := h
    exact ⟨h, rfl⟩
  · intro h
    obtain ⟨h, rfl⟩ := h
    exact ⟨h, rfl⟩

theorem micros_of_ofMicros? {us : Int} {t : Moment} (h : ofMicros? us = some t) :
    t.micros = us := by
  obtain ⟨-, rfl⟩ := ofMicros?_eq_some.1 h
  simp only [micros]
  omega

/-- Every count of microseconds that the calendar reaches has 64 bits. -/
theorem isInt64_of_ofMicros? {us : Int} {t : Moment} (h : ofMicros? us = some t) :
    Decimal.IsInt64 us := by
  obtain ⟨hrange, rfl⟩ := ofMicros?_eq_some.1 h
  simp only [InRange, minSeconds_eq, maxSeconds_eq] at hrange
  unfold Decimal.IsInt64
  omega

theorem hasPlainYear_iff {us : Int} {t : Moment} (h : ofMicros? us = some t) :
    t.HasPlainYear ↔ InPlainYears us := by
  obtain ⟨-, rfl⟩ := ofMicros?_eq_some.1 h
  have hfirst : Date.dayNumber ⟨0, 1, 1⟩ = -719528 := by decide
  have hend : Date.dayNumber ⟨10000, 1, 1⟩ = 2932897 := by decide
  simp only [HasPlainYear, date, Date.year_ofDayNumber_plain_iff, InPlainYears, hfirst, hend]
  omega

/-- Stored microseconds that are shown and read again come back in the years of four digits and
in no others. -/
theorem readStrict_ofMicros? {us : Int} {t : Moment} (h : ofMicros? us = some t) :
    (∃ u, readStrict t.microText = .ok u ∧ u.micros = us) ↔ InPlainYears us := by
  rw [← hasPlainYear_iff h]
  have hparts := (ofMicros?_eq_some.1 h).2
  constructor
  · intro hread
    obtain ⟨u, hu, -⟩ := hread
    by_contra hyear
    exact readStrict_microText_ne_ok hyear u hu
  · intro hyear
    refine ⟨t, readStrict_microText hyear ?_ ?_, micros_of_ofMicros? h⟩
    · rw [hparts]
      simp only
      omega
    · rw [hparts]
      exact ⟨_, Nat.mul_comm _ _⟩

end Backlog.Moment
