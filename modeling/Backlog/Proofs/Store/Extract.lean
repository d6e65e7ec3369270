import Backlog.Proofs.Json.RoundTrip
import Backlog.Store.Extract

/-!
# Fields of printed texts

**Main statement (`extract_text`).** What is looked up in the text of a record is what the value
that the record holds under the name is found as (`datumOf`). Truth values, texts, lists and objects
are found as they are, and numbers as their digits are read where texts are looked at. Where the
record has no such field nothing is found.

A text is looked at by a reader of its own, which knows a key by its spelling. So this holds of
names that are printed without escapes (`Unescaped`); no other key is spelled like one of them
(`spelled_eq_iff`).
-/

namespace Backlog.Stored

open Json (Reader EndsNumber skipSpace_cons stringChars escapedChar itemsChars membersChars)

/-! ## Values as they are found -/

/-- What the text of a value is in a comparison. -/
def datumOf : Json → Datum
  | .int n => numberOf (n < 0) (Nat.toDigits 10 n.natAbs)
  | .float x => numberOf x.negative (Json.magnitudeChars x)
  | v => .ofJson v

/-- What the text of a value is found as. -/
def found (v : Json) : Found := ⟨datumOf v, v.chars⟩

/-- How a key is spelled in a printed text. -/
def spelled (k : String) : String := String.ofList (k.toList.flatMap escapedChar)

/-- A member as it is found. -/
def foundMember (m : String × Json) : String × Found := (spelled m.1, found m.2)

theorem chars_arr (xs : List Json) :
    Json.chars (.arr xs) = '[' :: ((itemsChars xs).tail ++ [']']) := by
  cases xs <;> rfl

theorem chars_obj (ms : List (String × Json)) :
    Json.chars (.obj ms) = '\x7b' :: ((membersChars ms).tail ++ ['\x7d']) := by
  cases ms <;> rfl

/-- A list is its printed text. -/
theorem list_found (xs : List Json) : Found.list (xs.map found) = found (.arr xs) := by
  have hitems : (((xs.map found).map (·.chars)).flatMap (',' :: ·)) = itemsChars xs := by
    induction xs with
    | nil => rfl
    | cons x xs ih =>
      rw [List.map_cons, List.map_cons, List.flatMap_cons, ih]
      rfl
  rw [Found.list, Found.enclosed, hitems, ← chars_arr]
  rfl

theorem object_found (ms : List (String × Json)) :
    Found.object (ms.map foundMember) = found (.obj ms) := by
  have hmembers : (((ms.map foundMember).map fun m =>
      '"' :: m.1.toList ++ '"' :: ':' :: m.2.chars).flatMap (',' :: ·)) = membersChars ms := by
    induction ms with
    | nil => rfl
    | cons m ms ih =>
      rw [List.map_cons, List.map_cons, List.flatMap_cons, ih]
      simp [foundMember, spelled, found, membersChars, stringChars]
  rw [Found.object, Found.enclosed, hmembers, ← chars_obj]
  rfl

/-! ## Scalars -/

@[simp]
theorem before_append (cs rest : List Char) : before (cs ++ rest) rest = cs := by
  simp [before]

section Scalars

variable {list : Reader (List Found)} {object : Reader (List (String × Found))} {rest : List Char}

theorem valueOf_digit {c : Char} (hc : c.isDigit = true) (cs : List Char) :
    valueOf list object (c :: cs) = number false (c :: cs) := by
  have hne : ∀ d : Char, d.isDigit = false → c ≠ d := fun _ => Json.ne_of_isDigit hc
  rw [valueOf, skipSpace_cons (Json.opens_of_isDigit hc).1]
  split
  next h => exact absurd (List.cons.inj h).1 (hne _ rfl)
  next h => exact absurd (List.cons.inj h).1 (hne _ rfl)
  next h => exact absurd (List.cons.inj h).1 (hne _ rfl)
  next h =>
    obtain ⟨rfl, rfl⟩ := List.cons.inj h
    rw [if_pos hc]
  next h => cases h

theorem signed_valueOf : Json.Signed (valueOf list object) number where
  digit _ cs hc := valueOf_digit hc cs
  minus _ := rfl

/-- Characters that are passed over as a number are found as the number that they are. -/
theorem number_of_skipNumber {cs : List Char} (h : Json.skipNumber (cs ++ rest) = .ok rest)
    (negative : Bool) : number negative (cs ++ rest) =
      .ok (⟨numberOf negative cs, (if negative then ['-'] else []) ++ cs⟩, rest) := by
  rw [number, h, ok_bind, before_append]
  rfl

theorem valueOf_int (n : Int) (hrest : EndsNumber rest) :
    valueOf list object (Json.intChars n ++ rest) = .ok (found (.int n), rest) := by
  have hchars : Json.intChars n =
      (if decide (n < 0) then ['-'] else []) ++ Nat.toDigits 10 n.natAbs := by
    cases n with
    | ofNat n => rfl
    | negSucc n => rw [decide_eq_true (Int.negSucc_lt_zero n)]; rfl
  rw [signed_valueOf.intChars, number_of_skipNumber (Json.skipNumber_toDigits _ hrest), ← hchars]
  rfl

theorem valueOf_float (x : Binary64) (hrest : EndsNumber rest) :
    valueOf list object (x.chars ++ rest) = .ok (found (.float x), rest) := by
  rw [signed_valueOf.chars, number_of_skipNumber
    ((Json.numeral_magnitudeChars x).skipNumber hrest), ← Json.chars_eq_magnitudeChars]
  rfl

theorem word_append {v : Json} (cs : List Char)
    (h : Json.value 0 (cs ++ rest) = .ok (v, rest)) :
    word (cs ++ rest) = .ok (⟨.ofJson v, cs⟩, rest) := by
  simp only [word, h, ok_bind, before_append]
  rfl

theorem valueOf_str (s : String) (rest : List Char) :
    valueOf list object (stringChars s ++ rest) = .ok (found (.str s), rest) :=
  word_append _ (Json.valueOf_str s rest)

end Scalars

/-! ## Items and members one by one -/

section Steps

variable {item : Reader Found} {key : Reader String} {n : Nat} {rest : List Char}

theorem items_close (rest : List Char) : items item (n + 1) (']' :: rest) = .ok ([], rest) := rfl

/-- An item is read, and then the items behind its comma. -/
theorem items_cons {x : Json} {v : Found} {xs : List Json} {vs : List Found}
    (hone : ∀ after, EndsNumber after → item (x.chars ++ after) = .ok (v, after))
    (hmore : items item (n + 1) ((itemsChars xs).tail ++ ']' :: rest) = .ok (vs, rest)) :
    items item (n + 2) ((itemsChars (x :: xs)).tail ++ ']' :: rest) = .ok (v :: vs, rest) := by
  obtain ⟨c, cs, hcs, hopens⟩ := Json.chars_eq_cons x
  have hread := hone _ (Json.endsNumber_itemsChars xs rest)
  rw [itemsChars, List.cons_append, List.tail_cons, List.append_assoc]
  rw [hcs, List.cons_append] at hread ⊢
  rw [items, skipSpace_cons hopens.1]
  split
  next h => exact absurd (List.cons.inj h).1 hopens.2
  next =>
    rw [hread, ok_bind]
    cases xs with
    | nil =>
      cases hmore
      rfl
    | cons y ys =>
      simp only [itemsChars, List.cons_append, List.tail_cons] at hmore ⊢
      rw [skipSpace_cons (by decide)]
      simp only [hmore, ok_bind]
      rfl

theorem members_close (rest : List Char) :
    members key item (n + 1) ('\x7d' :: rest) = .ok ([], rest) := rfl

/-- A member is read by its key and its value, and then the members behind its comma. -/
theorem members_cons {k l : String} {x : Json} {v : Found} {ms : List (String × Json)}
    {vs : List (String × Found)}
    (hkey : ∀ after, key (k.toList.flatMap escapedChar ++ '"' :: after) = .ok (l, after))
    (hone : ∀ after, EndsNumber after → item (x.chars ++ after) = .ok (v, after))
    (hmore : members key item (n + 1) ((membersChars ms).tail ++ '\x7d' :: rest) =
      .ok (vs, rest)) :
    members key item (n + 2) ((membersChars ((k, x) :: ms)).tail ++ '\x7d' :: rest) =
      .ok ((l, v) :: vs, rest) := by
  have hread := hone _ (Json.endsNumber_membersChars ms rest)
  have hopen : (membersChars ((k, x) :: ms)).tail ++ '\x7d' :: rest =
      '"' :: (k.toList.flatMap escapedChar ++
        '"' :: ':' :: (x.chars ++ (membersChars ms ++ '\x7d' :: rest))) := by
    simp [membersChars, stringChars]
  rw [hopen, members, skipSpace_cons (by decide)]
  simp only [hkey, ok_bind, Json.colon, skipSpace_cons (show Json.isSpace ':' = false by decide),
    hread]
  cases ms with
  | nil =>
    cases hmore
    rfl
  | cons m ms =>
    simp only [membersChars, List.cons_append, List.tail_cons] at hmore ⊢
    rw [skipSpace_cons (by decide)]
    simp only [hmore, ok_bind]
    rfl

end Steps

/-! ## Whole values -/

/-- Scalars are read alike at every depth. -/
theorem value_eq_valueOf (d : Nat) : ∃ list object, value d = valueOf list object := by
  cases d with
  | zero => exact ⟨_, _, rfl⟩
  | succ d => exact ⟨_, _, rfl⟩

/-- A printed key that is read as a string is known by its spelling, too. -/
theorem innerKey_spelled (k : String) (rest : List Char) :
    innerKey (k.toList.flatMap escapedChar ++ '"' :: rest) = .ok (spelled k, rest) := by
  have hchars : k.toList.flatMap escapedChar ++ '"' :: rest =
      (k.toList.flatMap escapedChar ++ ['"']) ++ rest := by simp
  rw [innerKey, Json.string_stringChars, ok_bind, hchars]
  simp only [before_append, List.dropLast_concat]
  rfl

mutual

/-- The text of a value that does not nest too deep is read, whatever follows it. -/
theorem value_chars (v : Json) {d : Nat} {rest : List Char} (hd : v.depth ≤ d)
    (hrest : EndsNumber rest) : value d (v.chars ++ rest) = .ok (found v, rest) := by
  -- only lists and objects look at the depth
  obtain ⟨list, object, hvalue⟩ := value_eq_valueOf d
  cases v with
  | null =>
    rw [hvalue]
    exact word_append ['n', 'u', 'l', 'l'] rfl
  | bool b =>
    rw [hvalue]
    cases b with
    | false => exact word_append ['f', 'a', 'l', 's', 'e'] rfl
    | true => exact word_append ['t', 'r', 'u', 'e'] rfl
  | int n =>
    rw [hvalue]
    exact valueOf_int n hrest
  | float x =>
    rw [hvalue]
    exact valueOf_float x hrest
  | str s =>
    rw [hvalue]
    exact valueOf_str s rest
  | arr xs =>
    rw [Json.depth] at hd
    obtain ⟨d, rfl⟩ : ∃ m, d = m + 1 := ⟨d - 1, by omega⟩
    have hlen : xs.length < ((itemsChars xs).tail ++ ']' :: rest).length + 1 := by
      have := Json.length_le_itemsChars xs
      simp only [List.length_append, List.length_tail, List.length_cons]
      omega
    have hread : items (value d) _ ((itemsChars xs).tail ++ ']' :: rest) =
        .ok (xs.map found, rest) := items_chars xs (by omega) hlen
    rw [chars_arr, List.cons_append, List.append_assoc, List.singleton_append, value, valueOf,
      skipSpace_cons (by decide)]
    simp only [hread, ok_bind, list_found]
    rfl
  | obj ms =>
    rw [Json.depth] at hd
    obtain ⟨d, rfl⟩ : ∃ m, d = m + 1 := ⟨d - 1, by omega⟩
    have hlen : ms.length < ((membersChars ms).tail ++ '\x7d' :: rest).length + 1 := by
      have := Json.length_le_membersChars ms
      simp only [List.length_append, List.length_tail, List.length_cons]
      omega
    have hread : members innerKey (value d) _ ((membersChars ms).tail ++ '\x7d' :: rest) =
        .ok (ms.map foundMember, rest) := members_chars ms (by omega) innerKey_spelled hlen
    rw [chars_obj, List.cons_append, List.append_assoc, List.singleton_append, value, valueOf,
      skipSpace_cons (by decide)]
    simp only [hread, ok_bind, object_found]
    rfl

theorem items_chars (xs : List Json) {d n : Nat} {rest : List Char}
    (hd : Json.depth.depthItems xs ≤ d) (hn : xs.length < n) :
    items (value d) n ((itemsChars xs).tail ++ ']' :: rest) = .ok (xs.map found, rest) := by
  cases xs with
  | nil =>
    obtain ⟨n, rfl⟩ : ∃ m, n = m + 1 := ⟨n - 1, by omega⟩
    exact items_close rest
  | cons x xs =>
    rw [List.length_cons] at hn
    obtain ⟨n, rfl⟩ : ∃ m, n = m + 2 := ⟨n - 2, by omega⟩
    rw [Json.depth.depthItems, Nat.max_le] at hd
    exact items_cons (fun _ => value_chars x hd.1) (items_chars xs hd.2 (by omega))

theorem members_chars (ms : List (String × Json)) {d n : Nat} {rest : List Char}
    {key : Reader String} (hd : Json.depth.depthMembers ms ≤ d)
    (hkey : ∀ k after,
      key (k.toList.flatMap escapedChar ++ '"' :: after) = .ok (spelled k, after))
    (hn : ms.length < n) :
    members key (value d) n ((membersChars ms).tail ++ '\x7d' :: rest) =
      .ok (ms.map foundMember, rest) := by
  cases ms with
  | nil =>
    obtain ⟨n, rfl⟩ : ∃ m, n = m + 1 := ⟨n - 1, by omega⟩
    exact members_close rest
  | cons m ms =>
    obtain ⟨k, x⟩ := m
    rw [List.length_cons] at hn
    obtain ⟨n, rfl⟩ : ∃ m, n = m + 2 := ⟨n - 2, by omega⟩
    rw [Json.depth.depthMembers, Nat.max_le] at hd
    exact members_cons (hkey k) (fun _ => value_chars x hd.1)
      (members_chars ms hd.2 hkey (by omega))

end

/-! ## Keys by their spelling -/

/-- A name that is printed without escapes. -/
def Unescaped (name : String) : Prop := ∀ c ∈ name.toList, escapedChar c = [c]

instance (name : String) : Decidable (Unescaped name) :=
  List.decidableBAll (fun c => escapedChar c = [c]) name.toList

/-- A character that stands for itself in the spelling of a string. -/
def Plain (c : Char) : Prop := c ≠ '"' ∧ c ≠ '\\'

instance (c : Char) : Decidable (Plain c) :=
  inferInstanceAs (Decidable (c ≠ '"' ∧ c ≠ '\\'))

theorem plain_hexDigit : ∀ n < 16, Plain (Json.hexDigit n) := by decide

/-- A character is printed as it is, or as a backslash, any character and plain ones. -/
theorem escapedChar_cases (c : Char) :
    (escapedChar c = [c] ∧ Plain c) ∨
      ∃ d es, escapedChar c = '\\' :: d :: es ∧ ∀ e ∈ es, Plain e := by
  unfold escapedChar
  split
  · exact .inr ⟨_, [], rfl, by simp⟩
  next hquote =>
  split
  · exact .inr ⟨_, [], rfl, by simp⟩
  next hslash =>
  split
  · exact .inr ⟨_, [], rfl, by simp⟩
  split
  · exact .inr ⟨_, [], rfl, by simp⟩
  split
  · exact .inr ⟨_, [], rfl, by simp⟩
  split
  · exact .inr ⟨_, [], rfl, by simp⟩
  split
  · exact .inr ⟨_, [], rfl, by simp⟩
  split
  next hcode =>
    have hzero : Plain '0' := by decide
    refine .inr ⟨_, _, rfl, ?_⟩
    simp only [List.mem_cons, List.not_mem_nil, or_false, forall_eq_or_imp, forall_eq]
    exact ⟨hzero, hzero, plain_hexDigit _ (by omega), plain_hexDigit _ (by omega)⟩
  · exact .inl ⟨rfl, hquote, hslash⟩

theorem flatMap_escapedChar_of_unescaped {cs : List Char} (h : ∀ c ∈ cs, escapedChar c = [c]) :
    cs.flatMap escapedChar = cs := by
  induction cs with
  | nil => rfl
  | cons c cs ih =>
    rw [List.forall_mem_cons] at h
    rw [List.flatMap_cons, h.1, ih h.2, List.singleton_append]

/-- A key is spelled like a name without escapes only if it is that name. -/
theorem spelled_eq_iff {k name : String} (hname : Unescaped name) :
    spelled k = name ↔ k = name := by
  constructor
  · intro h
    have hchars : k.toList.flatMap escapedChar = name.toList := by
      rw [← h, spelled, String.toList_ofList]
    have hk : ∀ c ∈ k.toList, escapedChar c = [c] := by
      intro c hc
      rcases escapedChar_cases c with ⟨hc, -⟩ | ⟨d, es, hescape, -⟩
      · exact hc
      · have hin : '\\' ∈ name.toList :=
          hchars ▸ List.mem_flatMap.2 ⟨c, hc, hescape ▸ List.mem_cons_self⟩
        exact absurd (hname _ hin) (by decide)
    rw [flatMap_escapedChar_of_unescaped hk] at hchars
    exact String.toList_inj.1 hchars
  · rintro rfl
    rw [spelled, flatMap_escapedChar_of_unescaped hname, String.ofList_toList]

theorem lookup_foundMember {name : String} (hname : Unescaped name) (ms : List (String × Json)) :
    Record.lookup name (ms.map foundMember) = (Record.lookup name ms).map found := by
  induction ms with
  | nil => rfl
  | cons m ms ih =>
    obtain ⟨k, x⟩ := m
    rw [List.map_cons, foundMember, Record.lookup, Record.lookup, ih]
    by_cases hk : k = name
    · rw [if_pos ((spelled_eq_iff hname).2 hk), if_pos hk]
      rfl
    · rw [if_neg fun h => hk ((spelled_eq_iff hname).1 h), if_neg hk]

theorem spelling_plain {es : List Char} (h : ∀ e ∈ es, Plain e) (n : Nat) (rest : List Char) :
    spelling (n + es.length) (es ++ rest) = (spelling n rest).map fun r => (es ++ r.1, r.2) := by
  induction es with
  | nil => cases hrest : spelling n rest <;> simp [hrest, Except.map]
  | cons e es ih =>
    obtain ⟨⟨hquote, hslash⟩, hes⟩ := List.forall_mem_cons.1 h
    rw [List.length_cons, ← Nat.add_assoc, List.cons_append, spelling, ih hes]
    · cases spelling n rest <;> rfl
    · simpa using hquote
    · intro _ _ h
      exact absurd h hslash

/-- The characters that one character is printed as are passed over together. -/
theorem spelling_escapedChar (c : Char) :
    ∃ k ≤ (escapedChar c).length, ∀ n rest, spelling (n + k) (escapedChar c ++ rest) =
      (spelling n rest).map fun r => (escapedChar c ++ r.1, r.2) := by
  rcases escapedChar_cases c with ⟨hc, hplain⟩ | ⟨d, es, hescape, hplain⟩
  · have hone : ∀ e ∈ [c], Plain e := by simpa using hplain
    rw [hc]
    exact ⟨1, le_rfl, spelling_plain hone⟩
  · rw [hescape]
    refine ⟨es.length + 1, by simp, fun n rest => ?_⟩
    rw [← Nat.add_assoc, List.cons_append, List.cons_append, spelling, spelling_plain hplain]
    cases spelling n rest <;> rfl

theorem spelling_flatMap (cs : List Char) {n : Nat} (h : (cs.flatMap escapedChar).length < n)
    (rest : List Char) :
    spelling n (cs.flatMap escapedChar ++ '"' :: rest) = .ok (cs.flatMap escapedChar, rest) := by
  induction cs generalizing n with
  | nil =>
    obtain ⟨n, rfl⟩ : ∃ m, n = m + 1 := ⟨n - 1, by omega⟩
    rfl
  | cons c cs ih =>
    obtain ⟨k, hk, hstep⟩ := spelling_escapedChar c
    rw [List.flatMap_cons, List.length_append] at h
    obtain ⟨n, rfl⟩ : ∃ m, n = m + k := ⟨n - k, by omega⟩
    rw [List.flatMap_cons, List.append_assoc, hstep, ih (by omega)]
    rfl

/-- A printed key is known by its spelling. -/
theorem rawKey_spelled (k : String) (rest : List Char) :
    rawKey (k.toList.flatMap escapedChar ++ '"' :: rest) = .ok (spelled k, rest) := by
  have hlen : (k.toList.flatMap escapedChar).length <
      (k.toList.flatMap escapedChar ++ '"' :: rest).length + 1 := by
    rw [List.length_append]
    omega
  rw [rawKey, spelling_flatMap k.toList hlen, ok_bind]
  rfl

/-! ## Fields -/

/-- The text of a record is read as its members, under the spelling of their names. -/
theorem read_text {stored : Record Json} (hd : (Json.ofRecord stored).depth ≤ depthLimit) :
    read (Json.ofRecord stored).text = .ok (stored.entries.map foundMember) := by
  rw [Json.ofRecord, Json.depth] at hd
  have hdepth : Json.depth.depthMembers stored.entries ≤ depthLimit - 1 := by omega
  have hlen : stored.entries.length <
      ((membersChars stored.entries).tail ++ ['\x7d']).length + 1 := by
    have := Json.length_le_membersChars stored.entries
    simp only [List.length_append, List.length_tail, List.length_cons]
    omega
  have hread : members rawKey (value (depthLimit - 1)) _
      ((membersChars stored.entries).tail ++ ['\x7d']) =
      .ok (stored.entries.map foundMember, []) :=
    members_chars stored.entries hdepth rawKey_spelled hlen
  rw [read, Json.text, String.toList_ofList, Json.ofRecord, chars_obj, skipSpace_cons (by decide)]
  simp only [hread, ok_bind]
  rfl

/-- **Fields of printed texts.** -/
theorem extract_text {stored : Record Json} {name : String}
    (hd : (Json.ofRecord stored).depth ≤ depthLimit) (hname : Unescaped name) :
    extract (Json.ofRecord stored).text name = ((stored.find? name).map datumOf).getD .null := by
  rw [extract, read_text hd]
  simp only
  rw [lookup_foundMember hname, Option.map_map]
  rfl

end Backlog.Stored
