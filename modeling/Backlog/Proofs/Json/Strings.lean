import Backlog.Json.Reader
import Backlog.Proofs.Result

/-!
# Printed strings read back

**Main statement (`string_stringChars`).** The reader of strings takes a printed string from the
front of a text, whatever follows it.

Each character is escaped on its own, so the body of a string is read character by character
(`stringBody_escapedChar`).
-/

namespace Backlog.Json

/-! ## One character -/

/-- The escape by code writes every control character. -/
theorem escape_code : ∀ n < 32, ∀ rest : List Char,
    hexQuad ('0' :: '0' :: hexDigit (n / 16) :: hexDigit (n % 16) :: rest) = .ok (n, rest) := by
  intro n hn rest
  have hvalue : ∀ n < 32, hexValues? ['0', '0', hexDigit (n / 16), hexDigit (n % 16)] = some n := by
    decide
  simp only [hexQuad, hvalue n hn]

theorem stringBody_escape {c d : Char} {n : Nat} {rest : List Char} (cs : List Char)
    (h : escape (d :: cs ++ rest) = .ok (c, rest)) :
    stringBody (n + 1) ('\\' :: d :: cs ++ rest) =
      (stringBody n rest).map fun r => (c :: r.1, r.2) := by
  simp only [List.cons_append] at h ⊢
  rw [stringBody, h, ok_bind]
  simp only
  cases stringBody n rest <;> rfl

theorem stringBody_plain {c : Char} {n : Nat} {rest : List Char} (hquote : c ≠ '"')
    (hslash : c ≠ '\\') (hcode : ¬ c.toNat < 32) :
    stringBody (n + 1) (c :: rest) = (stringBody n rest).map fun r => (c :: r.1, r.2) := by
  rw [stringBody]
  · rw [if_neg hcode]
    cases stringBody n rest <;> rfl
  · simpa using hquote
  · intro h
    exact absurd h hslash

theorem eq_ofNat {c : Char} {n : Nat} (h : c.toNat = n) : Char.ofNat n = c := by
  rw [← h, Char.ofNat_toNat]

/-- A character is read back from its escape. -/
theorem stringBody_escapedChar (c : Char) (n : Nat) (rest : List Char) :
    stringBody (n + 1) (escapedChar c ++ rest) =
      (stringBody n rest).map fun r => (c :: r.1, r.2) := by
  unfold escapedChar
  split
  · subst c
    exact stringBody_escape [] rfl
  split
  · subst c
    exact stringBody_escape [] rfl
  split
  next h => exact stringBody_escape [] (by rw [← eq_ofNat h]; rfl)
  split
  · subst c
    exact stringBody_escape [] rfl
  split
  · subst c
    exact stringBody_escape [] rfl
  split
  next h => exact stringBody_escape [] (by rw [← eq_ofNat h]; rfl)
  split
  · subst c
    exact stringBody_escape [] rfl
  split
  next hcontrol =>
    apply stringBody_escape
    simp only [List.cons_append, List.nil_append, escape, escape_code _ hcontrol, ok_bind]
    rw [if_neg (by omega), if_neg (by omega), Char.ofNat_toNat]
    rfl
  next hquote hslash _ _ _ _ _ hcode => exact stringBody_plain hquote hslash hcode

/-! ## Strings -/

theorem stringBody_flatMap (cs : List Char) {n : Nat} (h : cs.length < n) (rest : List Char) :
    stringBody n (cs.flatMap escapedChar ++ '"' :: rest) = .ok (cs, rest) := by
  induction cs generalizing n with
  | nil =>
    obtain ⟨n, rfl⟩ := Nat.exists_eq_add_of_lt h
    simp [stringBody]
  | cons c cs ih =>
    obtain ⟨n, rfl⟩ : ∃ m, n = m + 1 := ⟨n - 1, by simp only [List.length_cons] at h; omega⟩
    rw [List.flatMap_cons, List.append_assoc, stringBody_escapedChar, ih (by simpa using h)]
    rfl

theorem one_le_length_escapedChar (c : Char) : 1 ≤ (escapedChar c).length := by
  unfold escapedChar
  repeat' split
  all_goals simp

theorem length_le_flatMap_escapedChar (cs : List Char) :
    cs.length ≤ (cs.flatMap escapedChar).length := by
  induction cs with
  | nil => simp
  | cons c cs ih =>
    have := one_le_length_escapedChar c
    simp only [List.flatMap_cons, List.length_append, List.length_cons]
    omega

/-- A printed string is read after its opening quote. -/
theorem string_stringChars (s : String) (rest : List Char) :
    string (s.toList.flatMap escapedChar ++ '"' :: rest) = .ok (s, rest) := by
  have hlen := length_le_flatMap_escapedChar s.toList
  rw [string, stringBody_flatMap s.toList (by simp only [List.length_append]; omega), ok_bind]
  simp only [String.ofList_toList]
  rfl

end Backlog.Json
