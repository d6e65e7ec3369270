import Backlog.Config

/-!
# The cap on page sizes

A page holds at most so many rows as the project says, where it says so.

**Main statement (`limit_read_capped`).** The limit of a page stays below the cap exactly if the cap
leaves room for the standard limit or a limit was given that makes sense: a positive number of 64
bits. A number above the cap becomes the cap exactly if it has 64 bits, or the standard limit is the
cap.

**The gap** (`exists_limit_beyond_cap`): the standard limit may be above the cap, and it stands in
for numbers that are too great as well as for those that are none.
-/

namespace Backlog.Page

variable {config : PagingConfig} {offset : Option String} {s : String} {n : Int}

/-- The text writes the integer in decimal, with blanks around it or none. -/
def Writes (s : String) (n : Int) : Prop := Decimal.readInt? (Text.trim s).toList = some n

instance (s : String) (n : Int) : Decidable (Writes s n) := by unfold Writes; infer_instance

/-- The limits that make sense. -/
def IsLimit (n : Int) : Prop := 0 < n ∧ n < 9223372036854775808

theorem readInt64?_trim (h : Writes s n) :
    Decimal.readInt64? (Text.trim s) = if Decimal.IsInt64 n then some n else none := by
  rw [Decimal.readInt64?, h, Option.filter_some]
  simp only [decide_eq_true_eq]

/-- A limit that makes sense counts up to the cap. -/
theorem limit_read_of_isLimit (hs : Writes s n) (hn : IsLimit n) :
    (read offset (some s) config).limit = min n.toNat config.maxLimit := by
  have hfits : Decimal.IsInt64 n := ⟨by have := hn.1; omega, hn.2⟩
  simp only [read, Option.bind_some, readInt64?_trim hs, if_pos hfits, Option.filter_some,
    decide_eq_true hn.1, if_true, Option.map_some]

/-- Without one the standard limit holds. -/
theorem limit_read_of_not_isLimit {limit : Option String}
    (h : ∀ s n, limit = some s → Writes s n → ¬ IsLimit n) :
    (read offset limit config).limit = config.defaultLimit := by
  have hnone : ((limit.bind fun s => Decimal.readInt64? (Text.trim s)).filter (0 < ·)) = none := by
    rw [Option.filter_eq_none_iff]
    intro n hn
    obtain ⟨s, rfl, hs⟩ := Option.bind_eq_some_iff.1 hn
    obtain ⟨hwrites, hfits⟩ := Option.filter_eq_some_iff.1 hs
    have hno := h s n rfl hwrites
    simp only [decide_eq_true_eq] at hfits ⊢
    intro hpos
    exact hno ⟨hpos, hfits.2⟩
  simp only [read, hnone, Option.map_none]

/-- **The cap holds for the numbers that are read**, and for the standard limit if that keeps to
it. -/
theorem limit_read_capped (config : PagingConfig) (offset limit : Option String) :
    ((read offset limit config).limit ≤ config.maxLimit ↔
      config.defaultLimit ≤ config.maxLimit ∨
        ∃ s n, limit = some s ∧ Writes s n ∧ IsLimit n) ∧
    ∀ s n, Writes s n → (config.maxLimit : Int) < n →
      ((read offset (some s) config).limit = config.maxLimit ↔
        n < 9223372036854775808 ∨ config.defaultLimit = config.maxLimit) := by
  refine ⟨?_, fun s n hs hn => ?_⟩
  · by_cases hgiven : ∃ s n, limit = some s ∧ Writes s n ∧ IsLimit n
    · obtain ⟨s, n, rfl, hs, hn⟩ := hgiven
      rw [limit_read_of_isLimit hs hn]
      exact iff_of_true (Nat.min_le_right _ _) (.inr ⟨s, n, rfl, hs, hn⟩)
    · rw [limit_read_of_not_isLimit fun s n hlimit hs hn => hgiven ⟨s, n, hlimit, hs, hn⟩,
        or_iff_left hgiven]
  · by_cases hfits : n < 9223372036854775808
    · rw [limit_read_of_isLimit hs ⟨by omega, hfits⟩]
      exact iff_of_true (by omega) (.inl hfits)
    · have hno : ∀ s' n', some s = some s' → Writes s' n' → ¬ IsLimit n' := by
        rintro s' n' ⟨⟩ hs' hn'
        obtain rfl : n = n' := Option.some.inj (hs.symm.trans hs')
        exact hfits hn'.2
      rw [limit_read_of_not_isLimit hno, or_iff_right hfits]

/-- Five hundred rows are asked for, and a hundred are given. -/
theorem limit_read_capped_fiveHundred : Writes " 500 " 500 ∧ (100 : Int) < 500 ∧
    (read none (some " 500 ") ⟨20, 100⟩).limit = 100 := by
  have hs : Writes " 500 " 500 := by decide +kernel
  exact ⟨hs, by decide,
    ((limit_read_capped ⟨20, 100⟩ none none).2 " 500 " 500 hs (by decide)).2 (.inl (by decide))⟩

/-- A project whose standard limit is above its cap. -/
def wideConfig : String := "[paging]\ndefault_limit = 500\nmax_limit = 100\n"

/-- Not every limit keeps to the cap of a project. -/
theorem exists_limit_beyond_cap : ¬ ∀ (text : String) (c : ProjectConfig),
    ProjectConfig.ofText text = some c → ∀ offset limit : Option String,
      (read offset limit c.paging).limit ≤ c.paging.maxLimit ∧
      ∀ s n, limit = some s → Writes s n → (c.paging.maxLimit : Int) < n →
        (read offset limit c.paging).limit = c.paging.maxLimit := by
  intro h
  have hconfig : ProjectConfig.ofText wideConfig = some { paging := ⟨500, 100⟩ } := by
    decide +kernel
  have hlimit : (read none (some "9223372036854775808") ⟨500, 100⟩).limit = 500 := by
    decide +kernel
  have hcapped := (h wideConfig _ hconfig none (some "9223372036854775808")).1
  rw [hlimit] at hcapped
  exact absurd hcapped (by decide)

end Backlog.Page
