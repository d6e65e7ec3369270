import Backlog.Json.Parser
import Backlog.Proofs.Number.Digits
import Backlog.Proofs.Result

/-!
# Printed numbers read back

**Integers** come back as they are (`number_toDigits`, `number_toDigits_negative`).

**Floating numbers** are read in arithmetic of their own, so the text of one may be read as
another, or as none at all. What it is read as does not depend on what follows it
(`Numeral.readsAs`): that number is `Binary64.reread?`.

A numeral is whole digits, then digits behind a point, or an exponent, or both (`Numeral`). Each of
the three rows of digits ends where the text does not go on with a digit, so a numeral is read alike
before every text that does not continue it (`ReadsAs`), and passed over alike
(`Numeral.skipNumber`).
-/

namespace Backlog

/-! ## First digits -/

/-- A row of digits that does not start with a superfluous zero. -/
def LeadingDigit (cs : List Char) : Prop := cs ≠ [] ∧ (cs = ['0'] ∨ cs.head? ≠ some '0')

theorem head_toDigits_ne_zero {n : Nat} (hn : n ≠ 0) : (Nat.toDigits 10 n).head? ≠ some '0' := by
  intro h
  obtain ⟨cs, hcs⟩ := List.head?_eq_some_iff.1 h
  have hdigits : IsDigits cs := fun c hc => IsDigits.toDigits n c (hcs ▸ List.mem_cons_of_mem _ hc)
  have hvalue : Decimal.ofDigits cs = n := by
    have hsplit := Decimal.ofDigits_append ['0'] cs
    rw [List.singleton_append, ← hcs, Decimal.ofDigits_toDigits] at hsplit
    simpa [Decimal.ofDigits, Decimal.digitValue] using hsplit.symm
  have hlt := Decimal.ofDigits_lt hdigits
  rw [hvalue] at hlt
  cases cs with
  | nil => simp only [List.length_nil, Nat.pow_zero] at hlt; omega
  | cons c cs =>
    have hlen := (Nat.length_toDigits_le_iff (by decide) (by simp)).2 hlt
    rw [hcs] at hlen
    simp only [List.length_cons] at hlen
    omega

theorem leadingDigit_toDigits (n : Nat) : LeadingDigit (Nat.toDigits 10 n) := by
  refine ⟨Nat.toDigits_ne_nil, ?_⟩
  by_cases hn : n = 0
  · exact .inl (by rw [hn, Nat.toDigits_zero])
  · exact .inr (head_toDigits_ne_zero hn)

namespace Json

/-! ## Rows of digits -/

theorem ne_of_isDigit {c d : Char} (hc : c.isDigit = true) (hd : d.isDigit = false) : c ≠ d := by
  rintro rfl
  rw [hc] at hd
  cases hd

/-- What follows a numeral does not continue it. -/
def EndsNumber (rest : List Char) : Prop :=
  ∀ c ∈ rest.head?, c.isDigit = false ∧ c ≠ '.' ∧ c ≠ 'e' ∧ c ≠ 'E'

theorem EndsNumber.endsDigits {rest : List Char} (h : EndsNumber rest) : EndsDigits rest :=
  fun c hc => (h c hc).1

theorem endsNumber_nil : EndsNumber [] := by simp [EndsNumber]

variable {cs rest : List Char}

theorem wholeDigits_append (hcs : IsDigits cs) (hrest : EndsDigits rest) (m dropped : Nat) :
    wholeDigits m dropped (cs ++ rest) =
      ((wholeDigits m dropped cs).1, (wholeDigits m dropped cs).2.1, rest) := by
  induction cs generalizing m dropped with
  | nil =>
    cases rest with
    | nil => rfl
    | cons c rest => simp [wholeDigits, hrest c rfl]
  | cons c cs ih =>
    have hc := hcs c List.mem_cons_self
    have htail : IsDigits cs := fun d hd => hcs d (List.mem_cons_of_mem c hd)
    simp only [List.cons_append, wholeDigits, hc, if_true]
    split
    · exact ih htail _ _
    · exact ih htail _ _

theorem fractionDigits_append (hcs : IsDigits cs) (hrest : EndsDigits rest) (m taken : Nat) :
    fractionDigits m taken (cs ++ rest) =
      ((fractionDigits m taken cs).1, (fractionDigits m taken cs).2.1, rest) := by
  induction cs generalizing m taken with
  | nil =>
    cases rest with
    | nil => rfl
    | cons c rest => simp [fractionDigits, hrest c rfl]
  | cons c cs ih =>
    have hc := hcs c List.mem_cons_self
    have htail : IsDigits cs := fun d hd => hcs d (List.mem_cons_of_mem c hd)
    simp only [List.cons_append, fractionDigits, hc, if_true]
    split
    · exact ih htail _ _
    · rw [htail.dropWhile_append hrest]

theorem exponentDigits_append (hcs : IsDigits cs) (hrest : EndsDigits rest) (e : Nat) :
    exponentDigits e (cs ++ rest) = ((exponentDigits e cs).1, rest) := by
  induction cs generalizing e with
  | nil =>
    cases rest with
    | nil => rfl
    | cons c rest => simp [exponentDigits, hrest c rfl]
  | cons c cs ih =>
    have hc := hcs c List.mem_cons_self
    have htail : IsDigits cs := fun d hd => hcs d (List.mem_cons_of_mem c hd)
    simp only [List.cons_append, exponentDigits, hc, if_true]
    split
    · exact ih htail _
    · rw [htail.dropWhile_append hrest]

/-- Digits that fit are all kept. -/
theorem wholeDigits_of_fits (hcs : IsDigits cs) {m : Nat}
    (h : Nat.ofDigitChars 10 cs m < 18446744073709551616) :
    wholeDigits m 0 cs = (Nat.ofDigitChars 10 cs m, 0, []) := by
  induction cs generalizing m with
  | nil => rfl
  | cons c cs ih =>
    have hc := hcs c List.mem_cons_self
    have hnext : Nat.ofDigitChars 10 (c :: cs) m =
        Nat.ofDigitChars 10 cs (m * 10 + Decimal.digitValue c) := by
      rw [Nat.ofDigitChars_cons, Nat.mul_comm]
      rfl
    have hle : m * 10 + Decimal.digitValue c ≤
        Nat.ofDigitChars 10 cs (m * 10 + Decimal.digitValue c) := by
      rw [Nat.ofDigitChars_eq_ofDigitChars_zero]
      exact Nat.le_add_right_of_le (Nat.le_mul_of_pos_left _ (Nat.pow_pos (by decide)))
    rw [hnext] at h ⊢
    have hfits : fits m (Decimal.digitValue c) = true := by
      simp only [fits, decide_eq_true_eq]
      omega
    simp only [wholeDigits, hc, hfits, if_true, decide_true, Bool.and_self]
    exact ih (fun d hd => hcs d (List.mem_cons_of_mem c hd)) h

/-- The whole digits of a number are read before anything else. -/
theorem number_append (hcs : IsDigits cs) (hlead : LeadingDigit cs) (hrest : EndsDigits rest)
    (negative : Bool) :
    number negative (cs ++ rest) =
      afterWhole negative (wholeDigits 0 0 cs).1 (wholeDigits 0 0 cs).2.1 rest := by
  rcases hlead with ⟨hne, rfl | hhead⟩
  · -- a zero is read apart, because no digit may follow it
    cases rest with
    | nil => rfl
    | cons c rest =>
      have hc : c.isDigit = false := hrest c rfl
      simp only [List.cons_append, List.nil_append, number, hc, Bool.false_eq_true, if_false]
      rfl
  · obtain ⟨c, ds, rfl⟩ := List.exists_cons_of_ne_nil hne
    have hc : c.isDigit = true := hcs c List.mem_cons_self
    have hzero : c ≠ '0' := by simpa using hhead
    rw [List.cons_append, number, if_pos hc, ← List.cons_append, wholeDigits_append hcs hrest]
    intro _ _ h
    exact absurd h hzero

/-! ## Integers -/

theorem afterWhole_int (hrest : EndsNumber rest) (m : Nat) :
    afterWhole false m 0 rest = .ok (.int m, rest) := by
  rw [afterWhole]
  · simp
  all_goals
    rintro r rfl
    simp [EndsNumber] at hrest

theorem afterWhole_negative (hrest : EndsNumber rest) {m : Nat} (hpos : m ≠ 0)
    (hle : m ≤ 9223372036854775808) : afterWhole true m 0 rest = .ok (.int (-m), rest) := by
  rw [afterWhole]
  · simp only [ne_eq, not_true_eq_false, if_false, Bool.not_true, Bool.false_eq_true]
    rw [if_neg (by omega)]
  all_goals
    rintro r rfl
    simp [EndsNumber] at hrest

theorem wholeDigits_toDigits {n : Nat} (h : n < 18446744073709551616) :
    wholeDigits 0 0 (Nat.toDigits 10 n) = (n, 0, []) := by
  rw [wholeDigits_of_fits (.toDigits n) (by rwa [Nat.ofDigitChars_ten_toDigits]),
    Nat.ofDigitChars_ten_toDigits]

/-- A natural number of 64 bits is read back. -/
theorem number_toDigits {n : Nat} (h : n < 18446744073709551616) (hrest : EndsNumber rest) :
    number false (Nat.toDigits 10 n ++ rest) = .ok (.int n, rest) := by
  rw [number_append (.toDigits n) (leadingDigit_toDigits n) hrest.endsDigits,
    wholeDigits_toDigits h, afterWhole_int hrest]

/-- A negative integer of 64 bits is read back behind its sign. -/
theorem number_toDigits_negative {n : Nat} (hpos : n ≠ 0) (hle : n ≤ 9223372036854775808)
    (hrest : EndsNumber rest) :
    number true (Nat.toDigits 10 n ++ rest) = .ok (.int (-n), rest) := by
  rw [number_append (.toDigits n) (leadingDigit_toDigits n) hrest.endsDigits,
    wholeDigits_toDigits (by omega), afterWhole_negative hrest hpos hle]

/-- An integer of 64 bits, with a sign or without one, is read back behind its sign. -/
theorem number_intChars {n : Int} (hlow : -9223372036854775808 ≤ n)
    (hhigh : n < 18446744073709551616) (hrest : EndsNumber rest) :
    number (decide (n < 0)) (Nat.toDigits 10 n.natAbs ++ rest) = .ok (.int n, rest) := by
  cases n with
  | ofNat n => exact number_toDigits (Int.ofNat_lt.1 hhigh) hrest
  | negSucc n =>
    rw [decide_eq_true (Int.negSucc_lt_zero n), Int.natAbs_negSucc,
      number_toDigits_negative (by omega) (by omega) hrest]
    rfl

/-! ## Signs -/

/-- A reader tells numbers by a digit or a minus, and reads them behind their sign. -/
structure Signed {α : Type} (read : List Char → α) (signed : Bool → List Char → α) : Prop where
  digit : ∀ c cs, c.isDigit = true → read (c :: cs) = signed false (c :: cs)
  minus : ∀ cs, read ('-' :: cs) = signed true cs

theorem Signed.intChars {α : Type} {read : List Char → α} {signed : Bool → List Char → α}
    (h : Signed read signed) (n : Int) (rest : List Char) :
    read (intChars n ++ rest) = signed (decide (n < 0)) (Nat.toDigits 10 n.natAbs ++ rest) := by
  cases n with
  | ofNat n =>
    obtain ⟨c, cs, hcs⟩ := List.exists_cons_of_ne_nil (Nat.toDigits_ne_nil (n := n) (b := 10))
    have hc := IsDigits.toDigits n c (hcs ▸ List.mem_cons_self)
    simp only [Json.intChars, Int.ofNat_eq_natCast, Int.natAbs_natCast, hcs, List.cons_append]
    exact h.digit c _ hc
  | negSucc n =>
    rw [Json.intChars, List.cons_append, h.minus, decide_eq_true (Int.negSucc_lt_zero n)]
    rfl

/-! ## Numerals of floating numbers -/

/-- The characters are read as one floating number, or refused, whatever follows them. -/
def ReadsAs (negative : Bool) (cs : List Char) (r : Except Fault Binary64) : Prop :=
  ∀ rest, EndsNumber rest →
    number negative (cs ++ rest) = r.map fun y => (.float y, rest)

theorem floatOf_eq_map (negative : Bool) (m : Nat) (e : Int) :
    ∃ r : Except Fault Binary64, floatOf negative m e = r.map .float := by
  rw [floatOf]
  cases (Binary64.ofNat? m).bind (scaled? · e) with
  | none => exact ⟨.error _, rfl⟩
  | some x => exact ⟨.ok _, rfl⟩

theorem endsDigits_point (rest : List Char) : EndsDigits ('.' :: rest) := by
  simp [EndsDigits]

theorem endsDigits_exponent (rest : List Char) : EndsDigits ('e' :: rest) := by
  simp [EndsDigits]

/-- The mark of an exponent, with its sign. -/
def exponentMark (down : Bool) : List Char := if down then ['e', '-'] else ['e', '+']

theorem exponentPart_append {ds : List Char} (hds : IsDigits ds) (hne : ds ≠ []) (negative : Bool)
    (m : Nat) (start : Int) (down : Bool) :
    ∃ r : Except Fault Binary64, ∀ rest, EndsNumber rest →
      exponentPart negative m start ((exponentMark down).tail ++ ds ++ rest) =
        r.map fun y => (.float y, rest) := by
  obtain ⟨d, ds, rfl⟩ := List.exists_cons_of_ne_nil hne
  have hd : d.isDigit = true := hds d List.mem_cons_self
  have htail : IsDigits ds := fun c hc => hds c (List.mem_cons_of_mem d hc)
  have hread : ∀ rest, EndsNumber rest → exponentDigits (Decimal.digitValue d) (ds ++ rest) =
      ((exponentDigits (Decimal.digitValue d) ds).1, rest) := fun rest hrest =>
    exponentDigits_append htail hrest.endsDigits _
  cases he : (exponentDigits (Decimal.digitValue d) ds).1 with
  | some e =>
    rw [he] at hread
    obtain ⟨r, hr⟩ := floatOf_eq_map negative m (saturate (if down then start - e else start + e))
    refine ⟨r, fun rest hrest => ?_⟩
    cases down <;> cases r <;>
      simp_all [exponentPart, exponentMark, Except.map]
  | none =>
    rw [he] at hread
    by_cases hrange : m ≠ 0 ∧ down = false
    · refine ⟨.error .numberOutOfRange, fun rest hrest => ?_⟩
      simp [exponentPart, exponentMark, hread rest hrest, hd, hrange, Except.map]
    · refine ⟨.ok (.zero negative), fun rest hrest => ?_⟩
      cases down <;>
        simp_all [exponentPart, exponentMark, Except.map, pure, Except.pure]

/-- What may stand between the whole digits of a numeral and what follows it. -/
def ReadsAfter (negative : Bool) (m dropped : Nat) (cs : List Char)
    (r : Except Fault Binary64) : Prop :=
  ∀ rest, EndsNumber rest →
    afterWhole negative m dropped (cs ++ rest) = r.map fun y => (.float y, rest)

theorem readsAfter_exponent {ds : List Char} (hds : IsDigits ds) (hne : ds ≠ [])
    (negative : Bool) (m dropped : Nat) (down : Bool) :
    ∃ r, ReadsAfter negative m dropped (exponentMark down ++ ds) r := by
  obtain ⟨r, hr⟩ := exponentPart_append hds hne negative m dropped down
  refine ⟨r, fun rest hrest => ?_⟩
  rw [← hr rest hrest]
  cases down <;> rfl

theorem readsAfter_fraction {fs : List Char} (hfs : IsDigits fs) (hne : fs ≠ [])
    (negative : Bool) (m dropped : Nat) :
    ∃ r, ReadsAfter negative m dropped ('.' :: fs) r := by
  obtain ⟨r, hr⟩ := floatOf_eq_map negative (fractionDigits m 0 fs).1
    ((dropped : Int) - (fractionDigits m 0 fs).2.1)
  refine ⟨r, fun rest hrest => ?_⟩
  have hlen : rest.length ≠ (fs ++ rest).length := by
    have := List.length_pos_iff.2 hne
    simp only [List.length_append]
    omega
  rw [List.cons_append, afterWhole, fractionDigits_append hfs hrest.endsDigits]
  simp only [hlen, if_false]
  split
  · simp [EndsNumber] at hrest
  · simp [EndsNumber] at hrest
  · rw [hr]
    cases r <;> rfl

theorem readsAfter_fraction_exponent {fs ds : List Char} (hfs : IsDigits fs) (hfne : fs ≠ [])
    (hds : IsDigits ds) (hdne : ds ≠ []) (negative : Bool) (m dropped : Nat) (down : Bool) :
    ∃ r, ReadsAfter negative m dropped ('.' :: fs ++ exponentMark down ++ ds) r := by
  obtain ⟨r, hr⟩ := exponentPart_append hds hdne negative (fractionDigits m 0 fs).1
    ((dropped : Int) - (fractionDigits m 0 fs).2.1) down
  refine ⟨r, fun rest hrest => ?_⟩
  have hmark : exponentMark down = 'e' :: (exponentMark down).tail := by cases down <;> rfl
  rw [← hr rest hrest, hmark]
  simp only [List.cons_append, List.append_assoc, List.tail_cons]
  have hlen : ('e' :: ((exponentMark down).tail ++ (ds ++ rest))).length ≠
      (fs ++ 'e' :: ((exponentMark down).tail ++ (ds ++ rest))).length := by
    have := List.length_pos_iff.2 hfne
    simp only [List.length_append]
    omega
  rw [afterWhole, fractionDigits_append hfs (endsDigits_exponent _)]
  simp only [hlen, if_false]

theorem ReadsAfter.readsAs {ws cs : List Char} {negative : Bool} {r : Except Fault Binary64}
    (hws : IsDigits ws) (hlead : LeadingDigit ws) (hends : ∀ rest, EndsDigits (cs ++ rest))
    (h : ReadsAfter negative (wholeDigits 0 0 ws).1 (wholeDigits 0 0 ws).2.1 cs r) :
    ReadsAs negative (ws ++ cs) r := fun rest hrest => by
  rw [List.append_assoc, number_append hws hlead (hends rest), h rest hrest]

/-- Whole digits, and behind them digits after a point, an exponent, or both. -/
inductive Numeral : List Char → Prop
  | fraction {ws fs : List Char} (hws : IsDigits ws) (hlead : LeadingDigit ws) (hfs : IsDigits fs)
      (hne : fs ≠ []) : Numeral (ws ++ '.' :: fs)
  | exponent {ws ds : List Char} (hws : IsDigits ws) (hlead : LeadingDigit ws) (down : Bool)
      (hds : IsDigits ds) (hne : ds ≠ []) : Numeral (ws ++ (exponentMark down ++ ds))
  | both {ws fs ds : List Char} (hws : IsDigits ws) (hlead : LeadingDigit ws) (hfs : IsDigits fs)
      (hfne : fs ≠ []) (down : Bool) (hds : IsDigits ds) (hdne : ds ≠ []) :
      Numeral (ws ++ ('.' :: fs ++ exponentMark down ++ ds))

/-- Every numeral is read as one floating number, or refused. -/
theorem Numeral.readsAs (h : Numeral cs) (negative : Bool) : ∃ r, ReadsAs negative cs r := by
  cases h with
  | fraction hws hlead hfs hne =>
    obtain ⟨r, hr⟩ := readsAfter_fraction hfs hne negative _ _
    exact ⟨r, hr.readsAs hws hlead fun _ => endsDigits_point _⟩
  | exponent hws hlead down hds hne =>
    obtain ⟨r, hr⟩ := readsAfter_exponent hds hne negative _ _ down
    refine ⟨r, hr.readsAs hws hlead fun _ => ?_⟩
    cases down <;> exact endsDigits_exponent _
  | both hws hlead hfs hfne down hds hdne =>
    obtain ⟨r, hr⟩ := readsAfter_fraction_exponent hfs hfne hds hdne negative _ _ down
    exact ⟨r, hr.readsAs hws hlead fun _ => endsDigits_point _⟩

/-! ## Numerals that are passed over -/

theorem skipNumber_append (hcs : IsDigits cs) (hlead : LeadingDigit cs) (hrest : EndsDigits rest) :
    skipNumber (cs ++ rest) = skipAfterWhole rest := by
  rcases hlead with ⟨hne, rfl | hhead⟩
  · cases rest with
    | nil => rfl
    | cons c rest =>
      have hc : c.isDigit = false := hrest c rfl
      simp [skipNumber, hc]
  · obtain ⟨c, ds, rfl⟩ := List.exists_cons_of_ne_nil hne
    have hc : c.isDigit = true := hcs c List.mem_cons_self
    have hds : IsDigits ds := fun d hd => hcs d (List.mem_cons_of_mem c hd)
    have hzero : c ≠ '0' := by simpa using hhead
    rw [List.cons_append, skipNumber, if_pos hc, skipDigits, hds.dropWhile_append hrest]
    intro _ _ h
    exact absurd h hzero

theorem skipExponent_append {ds : List Char} (hds : IsDigits ds) (hne : ds ≠ [])
    (hrest : EndsDigits rest) (down : Bool) :
    skipExponent ((exponentMark down).tail ++ ds ++ rest) = .ok rest := by
  obtain ⟨d, ds, rfl⟩ := List.exists_cons_of_ne_nil hne
  have hd : d.isDigit = true := hds d List.mem_cons_self
  have htail : IsDigits ds := fun c hc => hds c (List.mem_cons_of_mem d hc)
  have hskip : skipDigits (ds ++ rest) = rest := htail.dropWhile_append hrest
  cases down with
  | true => simp [skipExponent, exponentMark, hd, hskip]
  | false => simp [skipExponent, exponentMark, hd, hskip]

/-- Behind its whole digits a number may go on with an exponent. -/
theorem skipAfterWhole_exponent (down : Bool) (after : List Char) :
    skipAfterWhole (exponentMark down ++ after) =
      skipExponent ((exponentMark down).tail ++ after) := by
  cases down <;> rfl

section Fraction

variable {fs : List Char} (hfs : IsDigits fs) (hne : fs ≠ [])
include hfs hne

theorem skipAfterWhole_fraction (hrest : EndsNumber rest) :
    skipAfterWhole ('.' :: fs ++ rest) = .ok rest := by
  obtain ⟨f, fs, rfl⟩ := List.exists_cons_of_ne_nil hne
  have hf : f.isDigit = true := hfs f List.mem_cons_self
  have htail : IsDigits fs := fun c hc => hfs c (List.mem_cons_of_mem f hc)
  have hskip : skipDigits (fs ++ rest) = rest := htail.dropWhile_append hrest.endsDigits
  simp only [List.cons_append, skipAfterWhole, hf, if_true, hskip]
  split
  · simp [EndsNumber] at hrest
  · simp [EndsNumber] at hrest
  · rfl

theorem skipAfterWhole_fraction_exponent (down : Bool) (after : List Char) :
    skipAfterWhole ('.' :: fs ++ (exponentMark down ++ after)) =
      skipExponent ((exponentMark down).tail ++ after) := by
  obtain ⟨f, fs, rfl⟩ := List.exists_cons_of_ne_nil hne
  have hf : f.isDigit = true := hfs f List.mem_cons_self
  have htail : IsDigits fs := fun c hc => hfs c (List.mem_cons_of_mem f hc)
  have hmark : exponentMark down = 'e' :: (exponentMark down).tail := by cases down <;> rfl
  have hskip : skipDigits (fs ++ (exponentMark down ++ after)) =
      'e' :: ((exponentMark down).tail ++ after) := by
    rw [hmark]
    exact htail.dropWhile_append (endsDigits_exponent _)
  simp only [List.cons_append, skipAfterWhole, hf, if_true, hskip]

end Fraction

/-- A numeral is passed over, whatever follows it. -/
theorem Numeral.skipNumber (h : Numeral cs) (hrest : EndsNumber rest) :
    Json.skipNumber (cs ++ rest) = .ok rest := by
  cases h with
  | @fraction ws fs hws hlead hfs hne =>
    have hends : EndsDigits ('.' :: fs ++ rest) := endsDigits_point _
    rw [List.append_assoc, skipNumber_append hws hlead hends]
    exact skipAfterWhole_fraction hfs hne hrest
  | @exponent ws ds hws hlead down hds hne =>
    have hends : EndsDigits (exponentMark down ++ (ds ++ rest)) := by
      cases down <;> exact endsDigits_exponent _
    rw [List.append_assoc, List.append_assoc, skipNumber_append hws hlead hends,
      skipAfterWhole_exponent, ← List.append_assoc]
    exact skipExponent_append hds hne hrest.endsDigits down
  | @both ws fs ds hws hlead hfs hfne down hds hdne =>
    have hends : EndsDigits ('.' :: fs ++ (exponentMark down ++ (ds ++ rest))) :=
      endsDigits_point _
    rw [List.append_assoc, List.append_assoc, List.append_assoc,
      skipNumber_append hws hlead hends, skipAfterWhole_fraction_exponent hfs hfne,
      ← List.append_assoc]
    exact skipExponent_append hds hdne hrest.endsDigits down

/-- The digits of an integer are passed over. -/
theorem skipNumber_toDigits (n : Nat) (hrest : EndsNumber rest) :
    Json.skipNumber (Nat.toDigits 10 n ++ rest) = .ok rest := by
  rw [skipNumber_append (.toDigits n) (leadingDigit_toDigits n) hrest.endsDigits, skipAfterWhole]
  all_goals
    intros
    subst rest
    simp [EndsNumber] at hrest

end Json

end Backlog
