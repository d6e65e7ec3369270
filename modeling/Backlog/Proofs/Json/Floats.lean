import Backlog.Proofs.Json.Numbers
import Mathlib.Data.List.TakeWhile

/-!
# The texts of floating numbers

**Main statement (`valueOf_float`).** The text of a floating number is read alike wherever it
stands: as the number that it is read as on its own (`Binary64.reread?`), or not at all.

The shortest digits of a number other than zero neither start nor end with a zero, so each of the
three layouts is a numeral.
-/

namespace Backlog

namespace Binary64

/-- The number that the text of a number is read as. -/
def reread? (x : Binary64) : Option Binary64 :=
  match Json.parse x.text with
  | .ok (.float y) => some y
  | _ => none

/-! ## Shortest digits -/

theorem readsBack_zero {x : Binary64} (hx : x.isZero = false) (s : Int) :
    x.readsBack 0 s = false := by
  have hne : zero x.negative ≠ x := by
    intro h
    rw [← h] at hx
    cases hx
  simp [readsBack, round?, hne]

theorem onGrid?_ne_zero {x : Binary64} (hx : x.isZero = false) {s : Int} {c : Nat}
    (h : x.onGrid? s = some c) : c ≠ 0 := by
  rintro rfl
  unfold onGrid? at h
  have hlow : ∀ low, x.readsBack low s = true → low ≠ 0 := by
    rintro _ hlow rfl
    rw [readsBack_zero hx] at hlow
    cases hlow
  simp only at h
  split at h
  next hl _ =>
    split at h
    · exact hlow _ hl (Option.some.inj h)
    · cases h
  next hl _ => exact hlow _ hl (Option.some.inj h)
  · cases h
  · cases h

theorem shortest_ne_zero {x : Binary64} (hx : x.isZero = false) : x.shortest.1 ≠ 0 := by
  rw [shortest]
  simp only
  cases hfound : (List.range 17).findSome? fun (k : Nat) =>
      let s := decimalExponent x.ratio.1 x.ratio.2 - k
      (x.onGrid? s).map fun c => (c, s) with
  | some p =>
    obtain ⟨k, -, hk⟩ := List.exists_of_findSome?_eq_some hfound
    obtain ⟨c, hc, rfl⟩ := Option.map_eq_some_iff.1 hk
    exact onGrid?_ne_zero hx hc
  | none =>
    have hm : x.significand ≠ 0 := by simpa [isZero] using hx
    simp only [Option.getD_none]
    exact Nat.mul_ne_zero (Nat.mul_ne_zero hm (Nat.pow_eq_zero.not.2 (by omega)))
      (Nat.pow_eq_zero.not.2 (by omega))

theorem dropZeros_prefix (ds : List Char) : dropZeros ds <+: ds := by
  have h := List.dropWhile_suffix (· == '0') (l := ds.reverse)
  rw [← List.reverse_prefix] at h
  simpa [dropZeros] using h

/-- Dropping zeros at the end keeps a row that does not start with one. -/
theorem head?_dropZeros {ds : List Char} (hne : ds ≠ []) (hhead : ds.head? ≠ some '0') :
    (dropZeros ds).head? = ds.head? := by
  obtain ⟨d, es, rfl⟩ := List.exists_cons_of_ne_nil hne
  have hd : d ≠ '0' := by simpa using hhead
  obtain ⟨rest, hrest⟩ := dropZeros_prefix (d :: es)
  cases hz : dropZeros (d :: es) with
  | cons e fs =>
    rw [hz] at hrest
    simp only [List.cons_append, List.cons.injEq] at hrest
    simp [hrest.1]
  | nil =>
    have hall : ∀ c ∈ (d :: es).reverse, (c == '0') = true := by
      simpa [dropZeros, List.dropWhile_eq_nil_iff] using hz
    have := hall d (List.mem_reverse.2 List.mem_cons_self)
    exact absurd (by simpa using this) hd

end Binary64

namespace Json

open Binary64 (layout dropZeros)

/-! ## Layouts -/

/-- Digits without a zero in front are a numeral in every layout. -/
theorem numeral_layout {ds : List Char} (hds : IsDigits ds) (hne : ds ≠ [])
    (hhead : ds.head? ≠ some '0') (point : Int) : Numeral (layout ds point) := by
  unfold layout
  simp only
  split
  next hpoint =>
    -- whole digits and at least one digit behind the point
    have hws : IsDigits (ds.take point.toNat ++ List.replicate (point.toNat - ds.length) '0') :=
      (hds.take _).append (.zeros _)
    have hlead : LeadingDigit
        (ds.take point.toNat ++ List.replicate (point.toNat - ds.length) '0') := by
      obtain ⟨d, es, rfl⟩ := List.exists_cons_of_ne_nil hne
      obtain ⟨n, hn⟩ : ∃ n, point.toNat = n + 1 := ⟨point.toNat - 1, by omega⟩
      rw [hn, List.take_succ_cons]
      exact ⟨by simp, .inr (by simpa using hhead)⟩
    refine .fraction hws hlead ?_ ?_
    · split
      · exact .zeros 1
      · exact fun c hc => hds c (List.mem_of_mem_drop hc)
    · split
      · simp
      next h => simpa using h
  next =>
  split
  · -- a zero before the point
    have hlead : LeadingDigit ['0'] := ⟨by simp, .inl rfl⟩
    have hfs := (IsDigits.zeros (-point).toNat).append hds
    simpa using Numeral.fraction (.zeros 1) hlead hfs (by simp [hne])
  · -- one digit before the point, and an exponent
    have hws : IsDigits (ds.take 1) := hds.take 1
    have hlead : LeadingDigit (ds.take 1) := by
      obtain ⟨d, es, rfl⟩ := List.exists_cons_of_ne_nil hne
      exact ⟨by simp, .inr (by simpa using hhead)⟩
    have hmark : (if point - 1 < 0 then ['e', '-'] else ['e', '+']) =
        exponentMark (decide (point - 1 < 0)) := by
      by_cases h : point - 1 < 0 <;> simp [exponentMark, h]
    have hexponent := IsDigits.toDigits (point - 1).natAbs
    rw [hmark]
    split
    · simpa using Numeral.exponent hws hlead (decide (point - 1 < 0)) hexponent
        Nat.toDigits_ne_nil
    next hlong =>
      have hfs : IsDigits (ds.drop 1) := fun c hc => hds c (List.mem_of_mem_drop hc)
      have hfne : ds.drop 1 ≠ [] := by
        rw [ne_eq, List.drop_eq_nil_iff]
        omega
      simpa using Numeral.both hws hlead hfs hfne (decide (point - 1 < 0)) hexponent
        Nat.toDigits_ne_nil

/-! ## Numbers -/

/-- The text of a number without its sign. -/
def magnitudeChars (x : Binary64) : List Char :=
  if x.isZero then ['0', '.', '0']
  else
    let all := Nat.toDigits 10 x.shortest.1
    layout (dropZeros all) (all.length + x.shortest.2)

theorem chars_eq_magnitudeChars (x : Binary64) :
    x.chars = (if x.negative then ['-'] else []) ++ magnitudeChars x := by
  rw [Binary64.chars, magnitudeChars]
  split <;> rfl

theorem numeral_magnitudeChars (x : Binary64) : Numeral (magnitudeChars x) := by
  rw [magnitudeChars]
  split
  · have hzero : LeadingDigit ['0'] := ⟨by simp, .inl rfl⟩
    exact .fraction (.zeros 1) hzero (.zeros 1) (by simp)
  next hx =>
    have hc := Binary64.shortest_ne_zero (by simpa using hx)
    have hhead := head_toDigits_ne_zero hc
    have hkeep := Binary64.head?_dropZeros Nat.toDigits_ne_nil hhead
    refine numeral_layout ?_ ?_ ?_ _
    · exact fun c h => IsDigits.toDigits _ c ((Binary64.dropZeros_prefix _).subset h)
    · intro hnil
      rw [hnil, List.head?_nil, eq_comm, List.head?_eq_none_iff] at hkeep
      exact Nat.toDigits_ne_nil hkeep
    · rwa [hkeep]

/-- The text of a number without its sign starts with a digit. -/
theorem magnitudeChars_eq_cons (x : Binary64) :
    ∃ c cs, magnitudeChars x = c :: cs ∧ c.isDigit = true := by
  rw [magnitudeChars]
  split
  · exact ⟨'0', _, rfl, rfl⟩
  next hx =>
    have hc := Binary64.shortest_ne_zero (by simpa using hx)
    have hhead := Binary64.head?_dropZeros Nat.toDigits_ne_nil (head_toDigits_ne_zero hc)
    obtain ⟨d, ds, hds⟩ := List.exists_cons_of_ne_nil
      (Nat.toDigits_ne_nil (n := x.shortest.1) (b := 10))
    have hd : d.isDigit = true := IsDigits.toDigits _ d (hds ▸ List.mem_cons_self)
    rw [hds, List.head?_cons, List.head?_eq_some_iff] at hhead
    obtain ⟨es, hes⟩ := hhead
    simp only [hds, hes]
    unfold layout
    simp only
    split
    next hpoint =>
      obtain ⟨n, hn⟩ : ∃ n, ((d :: ds).length + x.shortest.2).toNat = n + 1 :=
        ⟨((d :: ds).length + x.shortest.2).toNat - 1, by omega⟩
      exact ⟨d, _, by rw [hn, List.take_succ_cons]; rfl, hd⟩
    next =>
    split
    · exact ⟨'0', _, rfl, rfl⟩
    · exact ⟨d, _, by rw [List.take_succ_cons]; rfl, hd⟩

/-- A printed number is read by its magnitude behind its sign. -/
theorem Signed.chars {α : Type} {read : List Char → α} {signed : Bool → List Char → α}
    (h : Signed read signed) (x : Binary64) (rest : List Char) :
    read (x.chars ++ rest) = signed x.negative (magnitudeChars x ++ rest) := by
  obtain ⟨c, cs, hcs, hc⟩ := magnitudeChars_eq_cons x
  rw [chars_eq_magnitudeChars]
  cases x.negative with
  | true => exact h.minus _
  | false =>
    simp only [Bool.false_eq_true, if_false, List.nil_append, hcs, List.cons_append]
    exact h.digit c _ hc

/-! ## Values -/

section Values

variable {list : Reader (List Json)} {object : Reader (List (String × Json))}

/-- A digit at the front is the start of a number. -/
theorem valueOf_digit {c : Char} (hc : c.isDigit = true) (cs : List Char) :
    valueOf list object (c :: cs) = number false (c :: cs) := by
  have hne : ∀ d : Char, d.isDigit = false → c ≠ d := fun _ => ne_of_isDigit hc
  have hspace : isSpace c = false := by
    simp only [isSpace, Bool.or_eq_false_iff, decide_eq_false_iff_not]
    exact ⟨⟨⟨hne _ rfl, hne _ rfl⟩, hne _ rfl⟩, hne _ rfl⟩
  rw [valueOf, skipSpace, List.dropWhile_cons, hspace]
  simp only [Bool.false_eq_true, if_false]
  split
  · cases ‹c :: cs = []›
  all_goals
    next h =>
      simp only [List.cons.injEq] at h
      first
        | exact absurd h.1 (hne _ rfl)
        | (obtain ⟨rfl, rfl⟩ := h; rw [if_pos hc])

theorem signed_valueOf : Signed (valueOf list object) number where
  digit _ cs hc := valueOf_digit hc cs
  minus _ := rfl

theorem value_float_of_readsAs {x : Binary64} {r : Except Fault Binary64}
    (h : ReadsAs x.negative (magnitudeChars x) r) : x.reread? = r.toOption := by
  have hvalue : value depthLimit (x.chars ++ []) = r.map fun y => (.float y, []) :=
    (signed_valueOf.chars x []).trans (h [] endsNumber_nil)
  rw [Binary64.reread?, parse, readAll, Binary64.text, String.toList_ofList,
    ← List.append_nil x.chars, hvalue]
  cases r <;> rfl

/-- The text of a number is read as the same number wherever it stands. -/
theorem valueOf_float {x : Binary64} {w : Json} {rest rest' : List Char} (hrest : EndsNumber rest) :
    valueOf list object (x.chars ++ rest) = .ok (w, rest') ↔
      ∃ y, x.reread? = some y ∧ w = .float y ∧ rest' = rest := by
  obtain ⟨r, hr⟩ := (numeral_magnitudeChars x).readsAs x.negative
  rw [signed_valueOf.chars, hr rest hrest, value_float_of_readsAs hr]
  cases r with
  | error e => simp [Except.map, Except.toOption]
  | ok y => simp [Except.map, Except.toOption, eq_comm]

end Values

end Json

end Backlog
