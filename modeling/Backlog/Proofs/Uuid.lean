import Backlog.Text.Blank
import Backlog.Uuid
import Mathlib.Algebra.Group.Nat.Defs
import Mathlib.Data.List.Basic

/-!
# Identifiers are read as they are written

**Main statement (`read_text`).** The text of an identifier is read as that identifier.
-/

namespace Backlog.Uuid

/-! ## Digits -/

theorem hexValue?_hexDigit {d : Nat} (h : d < 16) : Json.hexValue? (Json.hexDigit d) = some d := by
  have hall : ∀ d < 16, Json.hexValue? (Json.hexDigit d) = some d := by decide
  exact hall d h

theorem hexDigit_ne_hyphen {d : Nat} (h : d < 16) : Json.hexDigit d ≠ '-' := by
  have hall : ∀ d < 16, Json.hexDigit d ≠ '-' := by decide
  exact hall d h

@[simp]
theorem length_hexDigits (width n : Nat) : (hexDigits width n).length = width := by
  induction width generalizing n with
  | zero => rfl
  | succ width ih => rw [hexDigits, List.length_append, ih, List.length_singleton]

theorem hyphen_notMem_hexDigits (width n : Nat) : '-' ∉ hexDigits width n := by
  induction width generalizing n with
  | zero => exact List.not_mem_nil
  | succ width ih =>
    rw [hexDigits, List.mem_append, List.mem_singleton]
    rintro (h | h)
    · exact ih _ h
    · exact hexDigit_ne_hyphen (Nat.mod_lt n (by decide)) h.symm

theorem exists_of_mem_hexDigits {width n : Nat} {c : Char} (h : c ∈ hexDigits width n) :
    ∃ d < 16, c = Json.hexDigit d := by
  induction width generalizing n with
  | zero => cases h
  | succ width ih =>
    rw [hexDigits, List.mem_append, List.mem_singleton] at h
    rcases h with h | h
    · exact ih h
    · exact ⟨n % 16, Nat.mod_lt n (by decide), h⟩

theorem hexValues?_hexDigits (width n : Nat) :
    Json.hexValues? (hexDigits width n) = some (n % 16 ^ width) := by
  induction width generalizing n with
  | zero => simp [hexDigits, Json.hexValues?, Nat.mod_one]
  | succ width ih =>
    have hfirst := ih (n / 16)
    rw [Json.hexValues?] at hfirst
    rw [Json.hexValues?, hexDigits, List.foldlM_append, hfirst, Nat.pow_succ, Nat.mul_comm,
      Nat.mod_mul]
    show (Json.hexValue? (Json.hexDigit (n % 16))).map _ >>= _ = _
    rw [hexValue?_hexDigit (Nat.mod_lt n (by decide)), Option.map_some, Nat.add_comm]
    rfl

/-! ## Hyphens -/

theorem filter_hyphenated {ds : List Char} (h : '-' ∉ ds) :
    (hyphenated ds).filter (· ≠ '-') = ds := by
  have hkept : ∀ cs : List Char, cs ⊆ ds → cs.filter (· ≠ '-') = cs := by
    intro cs hcs
    refine List.filter_eq_self.2 fun c hc => ?_
    simpa using fun hhyphen : c = '-' => h (hhyphen ▸ hcs hc)
  have hfirst := hkept (ds.take 8) (List.take_subset _ _)
  have hgroup : ∀ k, ((ds.drop k).take 4).filter (· ≠ '-') = (ds.drop k).take 4 := fun k =>
    hkept _ fun _ hc => List.mem_of_mem_drop (List.mem_of_mem_take hc)
  have hlast := hkept (ds.drop 20) (List.drop_subset _ _)
  have hjoin : ∀ k, (ds.drop k).take 4 ++ ds.drop (k + 4) = ds.drop k := fun k => by
    rw [← List.drop_drop, List.take_append_drop]
  simp only [hyphenated, List.filter_append, List.filter_cons_of_neg, hfirst, hgroup, hlast,
    ne_eq, not_true_eq_false, decide_false, Bool.false_eq_true, not_false_eq_true,
    List.append_assoc, List.cons_append]
  rw [hjoin 16, hjoin 12, hjoin 8, List.take_append_drop]

theorem length_hyphenated {ds : List Char} (h : ds.length = 32) : (hyphenated ds).length = 36 := by
  simp [hyphenated, h]

/-- A text of an identifier has four hyphens. -/
theorem count_hyphen_text (u : Uuid) : u.text.toList.count '-' = 4 := by
  have hfilter := filter_hyphenated (hyphen_notMem_hexDigits 32 u.value)
  have hlength := length_hyphenated (length_hexDigits 32 u.value)
  have hothers : (hyphenated (hexDigits 32 u.value)).countP (fun c => c ≠ '-') = 32 := by
    rw [List.countP_eq_length_filter, hfilter, length_hexDigits]
  have hsum := List.length_eq_countP_add_countP (· == '-') (l := hyphenated (hexDigits 32 u.value))
  have hsame : (fun c : Char => decide (¬ (c == '-') = true)) = fun c => decide (c ≠ '-') := by
    funext c
    simp
  rw [hsame, hothers, hlength] at hsum
  rw [text, String.toList_ofList, List.count]
  omega

/-- A text of hyphens and hexadecimal digits. -/
theorem eq_of_mem_text {u : Uuid} {c : Char} (h : c ∈ u.text.toList) :
    c = '-' ∨ ∃ d < 16, c = Json.hexDigit d := by
  rw [text, String.toList_ofList, hyphenated] at h
  have hc : c = '-' ∨ c ∈ hexDigits 32 u.value := by
    simp only [List.mem_append, List.mem_cons] at h
    grind [List.mem_of_mem_take, List.mem_of_mem_drop]
  exact hc.imp_right exists_of_mem_hexDigits

theorem lower_text (u : Uuid) : Text.lower u.text = u.text := by
  have hdigits : ∀ d < 16, (Json.hexDigit d).toLower = Json.hexDigit d := by decide
  have hchars : u.text.toList.map Char.toLower = u.text.toList.map id :=
    List.map_congr_left fun c hc => by
      rcases eq_of_mem_text hc with rfl | ⟨d, hd, rfl⟩
      · rfl
      · exact hdigits d hd
  rw [Text.lower, hchars, List.map_id, String.ofList_toList]

theorem isBlank_of_mem_text {u : Uuid} {c : Char} (h : c ∈ u.text.toList) :
    Text.isBlank c = false := by
  have hdigits : ∀ d < 16, Text.isBlank (Json.hexDigit d) = false := by decide
  rcases eq_of_mem_text h with rfl | ⟨d, hd, rfl⟩
  · decide
  · exact hdigits d hd

theorem trim_text (u : Uuid) : Text.trim u.text = u.text :=
  Text.trim_eq_self (fun _ hc => isBlank_of_mem_text (List.mem_of_mem_head? hc))
    fun _ hc => isBlank_of_mem_text (List.mem_of_getLast? hc)

/-- **Identifiers are read as they are written.** -/
theorem read_text (u : Uuid) : read u.text = .ok u := by
  have hlength := length_hyphenated (length_hexDigits 32 u.value)
  have hfilter := filter_hyphenated (hyphen_notMem_hexDigits 32 u.value)
  have hdigits : digits? u.text = some (hexDigits 32 u.value) := by
    rw [digits?, text, String.toList_ofList, if_neg (by omega), if_pos hlength, unhyphen?, hfilter,
      if_pos ⟨hlength, rfl⟩]
  have hbound : u.value < 16 ^ 32 := u.bound
  have hvalue : Json.hexValues? (hexDigits 32 u.value) = some u.value := by
    rw [hexValues?_hexDigits, Nat.mod_eq_of_lt hbound]
  rw [read, hdigits, Option.bind_some, ofHex?, if_pos (length_hexDigits _ _), hvalue,
    Option.bind_some, dif_pos u.bound]

theorem text_injective : Function.Injective text := by
  intro u v h
  exact Except.ok.inj (by rw [← u.read_text, h, v.read_text])

end Backlog.Uuid
