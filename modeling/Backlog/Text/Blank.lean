/-!
# Blank characters

The characters with the property `White_Space`, and texts without them at their ends.

**Main statements.** `head_trim` and `getLast_trim`: a trimmed text neither starts nor ends with
a blank; `trim_eq_self`: a text that does neither stays as it is.
-/

namespace Backlog.Text

/-- The blanks: controls tab to return, space, next line, and the spaces and separators. -/
def isBlank (c : Char) : Bool :=
  let n := c.toNat
  (0x09 ≤ n && n ≤ 0x0d) || n == 0x20 || n == 0x85 || n == 0xa0 || n == 0x1680 ||
    (0x2000 ≤ n && n ≤ 0x200a) || n == 0x2028 || n == 0x2029 || n == 0x202f || n == 0x205f ||
    n == 0x3000

/-- Drops what satisfies a test from both ends. -/
def strip {α : Type} (p : α → Bool) (xs : List α) : List α :=
  ((xs.dropWhile p).reverse.dropWhile p).reverse

/-- A text without the blanks at its ends. -/
def trim (s : String) : String := String.ofList (strip isBlank s.toList)

/-- A text with the capitals of the ASCII range made small. -/
def lower (s : String) : String := String.ofList (s.toList.map Char.toLower)

/-! ## Laws of stripping -/

variable {α : Type} {p : α → Bool}

theorem not_head_dropWhile (xs : List α) : ∀ x ∈ (xs.dropWhile p).head?, p x = false := by
  induction xs with
  | nil => simp
  | cons y ys ih =>
    by_cases h : p y
    · simpa [List.dropWhile_cons, h] using ih
    · simp [h]

theorem dropWhile_eq_self {xs : List α} (h : ∀ x ∈ xs.head?, p x = false) :
    xs.dropWhile p = xs := by
  cases xs with
  | nil => rfl
  | cons y ys => simp [h y (by simp)]

theorem getLast_strip (xs : List α) : ∀ x ∈ (strip p xs).getLast?, p x = false := by
  intro x hx
  rw [strip, List.getLast?_reverse] at hx
  exact not_head_dropWhile _ x hx

theorem head_strip (xs : List α) : ∀ x ∈ (strip p xs).head?, p x = false := by
  intro x hx
  have hs : (strip p xs) <+: (xs.dropWhile p) := by
    have := List.dropWhile_suffix p (l := (xs.dropWhile p).reverse)
    rw [← List.reverse_prefix] at this
    simpa [strip] using this
  obtain ⟨t, ht⟩ := hs
  apply not_head_dropWhile xs
  rw [← ht]
  cases hq : strip p xs with
  | nil => simp [hq] at hx
  | cons y ys => simpa [hq] using hx

theorem strip_eq_self {xs : List α} (h : ∀ x ∈ xs.head?, p x = false)
    (l : ∀ x ∈ xs.getLast?, p x = false) : strip p xs = xs := by
  rw [strip, dropWhile_eq_self h, dropWhile_eq_self, List.reverse_reverse]
  simpa using l

theorem head_trim (s : String) : ∀ c ∈ (trim s).toList.head?, isBlank c = false := by
  simpa [trim] using head_strip s.toList

theorem getLast_trim (s : String) : ∀ c ∈ (trim s).toList.getLast?, isBlank c = false := by
  simpa [trim] using getLast_strip s.toList

theorem trim_eq_self {s : String} (h : ∀ c ∈ s.toList.head?, isBlank c = false)
    (l : ∀ c ∈ s.toList.getLast?, isBlank c = false) : trim s = s := by
  rw [trim, strip_eq_self h l, String.ofList_toList]

theorem trim_trim (s : String) : trim (trim s) = trim s :=
  trim_eq_self (head_trim s) (getLast_trim s)

end Backlog.Text
