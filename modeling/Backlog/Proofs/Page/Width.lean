import Backlog.Proofs.Page.Links

/-!
# Links in machine words

Offsets, limits and numbers of rows are words of 64 bits without a sign. The links of a page are
computed from them in integers of 128 bits with a sign, and cut back to words at the end
(`linksInWords?`).

**Main statement (`linksInWords_eq`).** No step leaves its width, whatever the words are. So the
links are those of exact arithmetic, and they lead where `Links.LeadFrom` says.

**Why 128 bits do.** A step back from past the end overshoots the offset by less than a page, so all
that is ever computed lies between `-2^64` and `2^65`.
-/

namespace Backlog

/-- The natural numbers of 64 bits. -/
def IsWord (n : Nat) : Prop := n < 18446744073709551616

/-- The integers of 128 bits with a sign. -/
def IsInt128 (n : Int) : Prop :=
  -170141183460469231731687303715884105728 ≤ n ∧ n < 170141183460469231731687303715884105728

instance (n : Nat) : Decidable (IsWord n) := by unfold IsWord; infer_instance

instance (n : Int) : Decidable (IsInt128 n) := by unfold IsInt128; infer_instance

/-! ## Steps -/

namespace Wide

/-- A result, unless it needs more than 128 bits. -/
def step? (n : Int) : Option Int := if IsInt128 n then some n else none

def add? (a b : Int) : Option Int := step? (a + b)

def sub? (a b : Int) : Option Int := step? (a - b)

def mul? (a b : Int) : Option Int := step? (a * b)

/-- The quotient, cut off towards zero. -/
def div? (a b : Int) : Option Int := if b = 0 then none else step? (a.tdiv b)

/-- The rest of a division, which there is only with a quotient. -/
def mod? (a b : Int) : Option Int := (div? a b).map fun _ => a.tmod b

/-- The word that a number is. -/
def word? (n : Int) : Option Nat := if 0 ≤ n ∧ IsWord n.toNat then some n.toNat else none

/-- What lies between `-2^65` and `2^65` has room. -/
theorem step?_eq {n : Int} (hlow : -36893488147419103232 ≤ n) (hhigh : n ≤ 36893488147419103232) :
    step? n = some n :=
  if_pos (by unfold IsInt128; omega)

/-- Whole parts of a number are no greater than the number. -/
theorem quotient_bounds {a b : Int} (ha : 0 ≤ a) (hb : 0 < b) :
    0 ≤ a / b ∧ a / b ≤ a ∧ 0 ≤ a / b * b ∧ a / b * b ≤ a :=
  have hzero := Int.ediv_nonneg ha (Int.le_of_lt hb)
  ⟨hzero, Int.ediv_le_self b ha, Int.mul_nonneg hzero (Int.le_of_lt hb),
    Int.ediv_mul_le a (Int.ne_of_gt hb)⟩

theorem div?_eq {a b : Int} (ha : 0 ≤ a) (hfits : a ≤ 36893488147419103232) (hb : 0 < b) :
    div? a b = some (a / b) := by
  obtain ⟨hzero, hle, -, -⟩ := quotient_bounds ha hb
  rw [div?, if_neg (Int.ne_of_gt hb), Int.tdiv_eq_ediv_of_nonneg ha,
    step?_eq (by omega) (Int.le_trans hle hfits)]

theorem mod?_eq {a b : Int} (ha : 0 ≤ a) (hfits : a ≤ 36893488147419103232) (hb : 0 < b) :
    mod? a b = some (a % b) := by
  rw [mod?, div?_eq ha hfits hb, Int.tmod_eq_emod_of_nonneg ha]
  rfl

theorem word?_eq {n : Int} (hzero : 0 ≤ n) (hfits : n < 18446744073709551616) :
    word? n = some n.toNat :=
  if_pos ⟨hzero, by unfold IsWord; omega⟩

end Wide

namespace Page

open Wide

/-! ## Links step by step -/

def clip? (start limit : Int) : Option Page :=
  if 0 ≤ start then do return ⟨← word? start, ← word? limit⟩
  else do
    let rest ← add? limit start
    return ⟨0, ← word? (if 0 < rest then rest else limit)⟩

def backFromEnd? (offset limit total : Int) : Option Int := do
  let pages ← add? (← div? (← sub? offset total) limit) 1
  sub? offset (← mul? pages limit)

def firstInWords? (offset limit : Int) (size : Nat) : Option Page := do
  if 0 < offset then
    let rest ← mod? offset limit
    if rest ≠ 0 then return ⟨0, ← word? rest⟩
  return ⟨0, size⟩

def lastInWords? (offset limit total : Int) : Option Page := do
  if offset < total then
    let pages ← div? (← sub? (← sub? total offset) 1) limit
    clip? (← add? offset (← mul? pages limit)) limit
  else clip? (← backFromEnd? offset limit total) limit

def prevInWords? (offset limit total : Int) : Option (Option Page) := do
  if 0 < offset ∧ 0 < total then
    let start ← if offset ≤ total then sub? offset limit else backFromEnd? offset limit total
    return some (← clip? start limit)
  else return none

/-- The offset of the next page stays at the greatest word where it would go beyond. -/
def nextInWords (p : Page) (found total : Nat) : Option Page :=
  let offset := min (p.offset + found) 18446744073709551615
  if offset < total then some ⟨offset, p.size⟩ else none

/-- The links of a page, if every step stays within its width. -/
def linksInWords? (p : Page) (found total : Nat) : Option Links := do
  let limit ← step? p.size
  let offset ← step? p.offset
  let count ← step? total
  return {
    first := ← firstInWords? offset limit p.size
    last := ← lastInWords? offset limit count
    prev := ← prevInWords? offset limit count
    next := nextInWords p found total }

/-! ## Every step stays within its width -/

section Within

variable {p : Page} {total width : Nat} {start : Int}

theorem isWord_size (h : IsWord p.limit) : IsWord p.size := by
  unfold IsWord at h ⊢
  rw [size]
  omega

theorem clip?_eq (hwidth : IsWord width) (hlow : -18446744073709551616 ≤ start)
    (hhigh : start < 18446744073709551616) : clip? start width = some (clip start width) := by
  unfold IsWord at hwidth
  have hword : word? width = some (width : Int).toNat := word?_eq (by omega) (by omega)
  rw [clip?, clip]
  split
  next hwithin =>
    rw [word?_eq hwithin hhigh, hword]
    rfl
  next hbefore =>
    rw [add?, step?_eq (by omega) (by omega), Option.bind_eq_bind, Option.bind_some]
    split
    next hpos =>
      rw [word?_eq (Int.le_of_lt hpos) (by omega)]
      rfl
    next =>
      rw [hword]
      rfl

/-- Going back from past the end overshoots by less than a page. -/
theorem backFromEnd?_eq (hoffset : IsWord p.offset) (hlimit : IsWord p.limit)
    (h : total ≤ p.offset) : backFromEnd? p.offset p.size total =
      some (Links.backFromEnd p.offset p.size total) := by
  have hsize := isWord_size hlimit
  have hpos := p.size_pos
  unfold IsWord at hoffset hsize
  rw [Links.backFromEnd]
  generalize hbeyond : (p.offset : Int) - total = beyond
  obtain ⟨hzero, hle, hproduct, hbound⟩ :=
    quotient_bounds (a := beyond) (b := p.size) (by omega) (by omega)
  have hpages : (beyond / p.size + 1) * p.size = beyond / p.size * p.size + p.size := by
    rw [Int.add_mul, Int.one_mul]
  have hsub : sub? p.offset total = some beyond := by
    rw [sub?, hbeyond, step?_eq (by omega) (by omega)]
  have hdiv : div? beyond p.size = some (beyond / p.size) :=
    div?_eq (by omega) (by omega) (by omega)
  have hadd : add? (beyond / p.size) 1 = some (beyond / p.size + 1) :=
    step?_eq (by omega) (by omega)
  have hmul : mul? (beyond / p.size + 1) p.size = some ((beyond / p.size + 1) * p.size) :=
    step?_eq (by omega) (by omega)
  simp only [backFromEnd?, hsub, hdiv, hadd, hmul, Option.bind_eq_bind, Option.bind_some]
  exact step?_eq (by omega) (by omega)

theorem firstInWords?_eq (hoffset : IsWord p.offset) (hlimit : IsWord p.limit)
    (found total : Nat) :
    firstInWords? p.offset p.size p.size = some (Links.ofPage p found total).first := by
  have hsize := isWord_size hlimit
  have hpos := p.size_pos
  unfold IsWord at hoffset hsize
  have hlow := Int.emod_nonneg p.offset (b := p.size) (by omega)
  have hhigh := Int.emod_lt_of_pos p.offset (b := p.size) (by omega)
  have hmod : mod? p.offset p.size = some ((p.offset : Int) % p.size) :=
    mod?_eq (by omega) (by omega) (by omega)
  have hword := word?_eq hlow (by omega)
  simp only [firstInWords?, Links.ofPage, max_limit_one, hmod, hword, Option.bind_eq_bind,
    Option.bind_some]
  by_cases hzero : 0 < (p.offset : Int)
  · by_cases hwhole : (p.offset : Int) % p.size = 0
    · rw [if_pos hzero, if_neg (by simpa using hwhole), if_neg (by simp [hwhole])]
      rfl
    · rw [if_pos hzero, if_pos hwhole, if_pos ⟨hzero, hwhole⟩]
      rfl
  · rw [if_neg hzero, if_neg fun h => hzero h.1]
    rfl

theorem lastInWords?_eq (hoffset : IsWord p.offset) (hlimit : IsWord p.limit)
    (htotal : IsWord total) (found : Nat) :
    lastInWords? p.offset p.size total = some (Links.ofPage p found total).last := by
  have hsize := isWord_size hlimit
  have hpos := p.size_pos
  obtain ⟨hlow, hhigh⟩ := p.lastStop_bounds total
  simp only [lastInWords?, Links.ofPage, max_limit_one]
  by_cases hwithin : p.offset < total
  · rw [if_pos (by omega), if_pos (by omega)]
    unfold IsWord at hoffset htotal
    generalize hahead : (total : Int) - p.offset - 1 = ahead
    obtain ⟨hzero, hle, hproduct, hbound⟩ :=
      quotient_bounds (a := ahead) (b := p.size) (by omega) (by omega)
    have hbefore : sub? total p.offset = some ((total : Int) - p.offset) :=
      step?_eq (by omega) (by omega)
    have hsub : sub? ((total : Int) - p.offset) 1 = some ahead := by
      rw [sub?, hahead, step?_eq (by omega) (by omega)]
    have hdiv : div? ahead p.size = some (ahead / p.size) :=
      div?_eq (by omega) (by omega) (by omega)
    have hmul : mul? (ahead / p.size) p.size = some (ahead / p.size * p.size) :=
      step?_eq (by omega) (by omega)
    have hadd : add? p.offset (ahead / p.size * p.size) = some (p.offset + ahead / p.size * p.size) :=
      step?_eq (by omega) (by omega)
    simp only [hbefore, hsub, hdiv, hmul, hadd, Option.bind_eq_bind, Option.bind_some]
    exact clip?_eq hsize (by omega) (by omega)
  · have hstart := backFromEnd_eq (Nat.le_of_not_lt hwithin)
    rw [if_neg (by omega), if_neg (by omega),
      backFromEnd?_eq hoffset hlimit (Nat.le_of_not_lt hwithin), Option.bind_eq_bind,
      Option.bind_some]
    unfold IsWord at hoffset hsize htotal
    exact clip?_eq hsize (by omega) (by omega)

theorem prevInWords?_eq (hoffset : IsWord p.offset) (hlimit : IsWord p.limit)
    (htotal : IsWord total) (found : Nat) :
    prevInWords? p.offset p.size total = some (Links.ofPage p found total).prev := by
  have hsize := isWord_size hlimit
  obtain ⟨hlow, hhigh⟩ := p.lastStop_bounds total
  simp only [prevInWords?, Links.ofPage, max_limit_one]
  split
  next hsome =>
    have hclip {start : Int} (hlow : -18446744073709551616 ≤ start)
        (hhigh : start < 18446744073709551616) := clip?_eq hsize hlow hhigh
    unfold IsWord at hsize
    by_cases hwithin : p.offset ≤ total
    · have hsub : sub? p.offset p.size = some ((p.offset : Int) - p.size) := by
        unfold IsWord at hoffset
        exact step?_eq (by omega) (by omega)
      rw [if_pos (by omega), if_pos (by omega), hsub, Option.bind_eq_bind, Option.bind_some,
        hclip (by omega) (by unfold IsWord at hoffset; omega)]
      rfl
    · have hstart := backFromEnd_eq (Nat.le_of_not_le hwithin)
      rw [if_neg (by omega), if_neg (by omega),
        backFromEnd?_eq hoffset hlimit (Nat.le_of_not_le hwithin), Option.bind_eq_bind,
        Option.bind_some, hclip (by omega) (by unfold IsWord at htotal; omega)]
      rfl
  next => rfl

theorem nextInWords_eq (htotal : IsWord total) (found : Nat) :
    nextInWords p found total = (Links.ofPage p found total).next := by
  unfold IsWord at htotal
  rw [next_ofPage, nextInWords]
  by_cases hmore : p.offset + found < total
  · rw [Nat.min_eq_left (by omega)]
  · rw [if_neg (by omega), if_neg hmore]

end Within

/-- **Links of words are exact.** No step of their computation leaves its width, and they lead where
they should. -/
theorem linksInWords_eq (p : Page) (found : Nat) {total : Nat} (hoffset : IsWord p.offset)
    (hlimit : IsWord p.limit) (htotal : IsWord total) :
    linksInWords? p found total = some (Links.ofPage p found total) ∧
      (Links.ofPage p found total).LeadFrom p found total := by
  refine ⟨?_, leadFrom_ofPage p found total⟩
  have hwide {n : Nat} (h : IsWord n) : step? n = some (n : Int) := by
    unfold IsWord at h
    exact step?_eq (by omega) (by omega)
  rw [linksInWords?, hwide (isWord_size hlimit), hwide hoffset, hwide htotal]
  simp only [Option.bind_eq_bind, Option.bind_some]
  rw [firstInWords?_eq hoffset hlimit found total, lastInWords?_eq hoffset hlimit htotal found,
    prevInWords?_eq hoffset hlimit htotal found, nextInWords_eq htotal found]
  rfl

/-- The greatest offset lies far past the end of thirteen rows, and a page before it is cut off. -/
theorem linksInWords_eq_greatest :
    linksInWords? ⟨18446744073709551615, 20⟩ 0 13 =
        some ⟨⟨0, 15⟩, ⟨0, 15⟩, some ⟨0, 15⟩, none⟩ ∧
      (Links.ofPage ⟨18446744073709551615, 20⟩ 0 13).LeadFrom ⟨18446744073709551615, 20⟩ 0 13 := by
  have hlinks : Links.ofPage ⟨18446744073709551615, 20⟩ 0 13 =
      ⟨⟨0, 15⟩, ⟨0, 15⟩, some ⟨0, 15⟩, none⟩ := by decide +kernel
  rw [← hlinks]
  exact linksInWords_eq _ 0 (by decide) (by decide) (by decide)

end Page

end Backlog
