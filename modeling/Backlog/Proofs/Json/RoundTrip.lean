import Backlog.Json.Decoder
import Backlog.Proofs.Json.Floats
import Backlog.Proofs.Json.Strings

/-!
# Printed values read back

**Main statement (`value_chars`).** The text of a value is read, where so many levels may open,
exactly if the value nests no deeper and each floating number in it can be read. Then the value
comes back with its floating numbers replaced by those that their texts are read as and its members
in the order of their names (`Json.readBack?`), and every other part as it was.

**Well-formed values** have their members in order already, and only their floating numbers can
change (`WellFormed.readBack?_eq`).
-/

namespace Backlog.Json

/-! ## Values that have a text -/

mutual

/-- Integers have 64 bits, with a sign or without one, and members stand in the order of their
names, each name once. -/
def WellFormed : Json → Prop
  | int n => -9223372036854775808 ≤ n ∧ n < 18446744073709551616
  | arr xs => WellFormedItems xs
  | obj ms => (ms.map Prod.fst).Pairwise (· < ·) ∧ WellFormedMembers ms
  | _ => True

def WellFormedItems : List Json → Prop
  | [] => True
  | x :: xs => WellFormed x ∧ WellFormedItems xs

def WellFormedMembers : List (String × Json) → Prop
  | [] => True
  | (_, x) :: ms => WellFormed x ∧ WellFormedMembers ms

end

mutual

/-- The value with every floating number replaced by what its text is read as. -/
def reread? : Json → Option Json
  | float x => x.reread?.map float
  | arr xs => (rereadItems? xs).map arr
  | obj ms => (rereadMembers? ms).map obj
  | v => some v

def rereadItems? : List Json → Option (List Json)
  | [] => some []
  | x :: xs => (reread? x).bind fun y => (rereadItems? xs).map (y :: ·)

def rereadMembers? : List (String × Json) → Option (List (String × Json))
  | [] => some []
  | (k, x) :: ms => (reread? x).bind fun y => (rereadMembers? ms).map ((k, y) :: ·)

end

mutual

/-- Integers have 64 bits, with a sign or without one. -/
def Printable : Json → Prop
  | int n => -9223372036854775808 ≤ n ∧ n < 18446744073709551616
  | arr xs => PrintableItems xs
  | obj ms => PrintableMembers ms
  | _ => True

def PrintableItems : List Json → Prop
  | [] => True
  | x :: xs => Printable x ∧ PrintableItems xs

def PrintableMembers : List (String × Json) → Prop
  | [] => True
  | (_, x) :: ms => Printable x ∧ PrintableMembers ms

end

mutual

/-- What the text of a value is read as. -/
def readBack? : Json → Option Json
  | float x => x.reread?.map float
  | arr xs => (readBackItems? xs).map arr
  | obj ms => (readBackMembers? ms).map fun ns => ofRecord (Record.ofList ns)
  | v => some v

def readBackItems? : List Json → Option (List Json)
  | [] => some []
  | x :: xs => (readBack? x).bind fun y => (readBackItems? xs).map (y :: ·)

def readBackMembers? : List (String × Json) → Option (List (String × Json))
  | [] => some []
  | (k, x) :: ms => (readBack? x).bind fun y => (readBackMembers? ms).map ((k, y) :: ·)

end

/-- Members keep their names. -/
theorem names_rereadMembers? {ms ns : List (String × Json)} (h : rereadMembers? ms = some ns) :
    ns.map Prod.fst = ms.map Prod.fst := by
  induction ms generalizing ns with
  | nil =>
    cases h
    rfl
  | cons m ms ih =>
    obtain ⟨y, -, h⟩ := Option.bind_eq_some_iff.1 h
    obtain ⟨ns, hns, rfl⟩ := Option.map_eq_some_iff.1 h
    simp [ih hns]

mutual

/-- What a well-formed value is read back as is well formed. -/
theorem WellFormed.reread {v w : Json} (hv : v.WellFormed) (h : v.reread? = some w) :
    w.WellFormed := by
  cases v with
  | float x =>
    obtain ⟨y, -, rfl⟩ := Option.map_eq_some_iff.1 h
    trivial
  | arr xs =>
    obtain ⟨ys, hys, rfl⟩ := Option.map_eq_some_iff.1 h
    exact WellFormedItems.reread hv hys
  | obj ms =>
    obtain ⟨ns, hns, rfl⟩ := Option.map_eq_some_iff.1 h
    exact ⟨names_rereadMembers? hns ▸ hv.1, WellFormedMembers.reread hv.2 hns⟩
  | null | bool | int | str =>
    cases h
    exact hv

theorem WellFormedItems.reread {xs ys : List Json} (hxs : WellFormedItems xs)
    (h : rereadItems? xs = some ys) : WellFormedItems ys := by
  cases xs with
  | nil =>
    cases h
    trivial
  | cons x xs =>
    obtain ⟨y, hy, h⟩ := Option.bind_eq_some_iff.1 h
    obtain ⟨ys, hys, rfl⟩ := Option.map_eq_some_iff.1 h
    exact ⟨WellFormed.reread hxs.1 hy, WellFormedItems.reread hxs.2 hys⟩

theorem WellFormedMembers.reread {ms ns : List (String × Json)} (hms : WellFormedMembers ms)
    (h : rereadMembers? ms = some ns) : WellFormedMembers ns := by
  cases ms with
  | nil =>
    cases h
    trivial
  | cons m ms =>
    obtain ⟨y, hy, h⟩ := Option.bind_eq_some_iff.1 h
    obtain ⟨ns, hns, rfl⟩ := Option.map_eq_some_iff.1 h
    exact ⟨WellFormed.reread hms.1 hy, WellFormedMembers.reread hms.2 hns⟩

end

/-! ## How deep values nest -/

theorem depthItems_le_iff {xs : List Json} {n : Nat} :
    depth.depthItems xs ≤ n ↔ ∀ x ∈ xs, x.depth ≤ n := by
  induction xs with
  | nil => simp [depth.depthItems]
  | cons x xs ih => rw [depth.depthItems, Nat.max_le, List.forall_mem_cons, ih]

theorem depthMembers_le_iff {ms : List (String × Json)} {n : Nat} :
    depth.depthMembers ms ≤ n ↔ ∀ m ∈ ms, m.2.depth ≤ n := by
  induction ms with
  | nil => simp [depth.depthMembers]
  | cons m ms ih => rw [depth.depthMembers, Nat.max_le, List.forall_mem_cons, ih]

theorem printableItems_iff {xs : List Json} : PrintableItems xs ↔ ∀ x ∈ xs, x.Printable := by
  induction xs with
  | nil => simp [PrintableItems]
  | cons x xs ih => rw [PrintableItems, List.forall_mem_cons, ih]

theorem printableMembers_iff {ms : List (String × Json)} :
    PrintableMembers ms ↔ ∀ m ∈ ms, m.2.Printable := by
  induction ms with
  | nil => simp [PrintableMembers]
  | cons m ms ih => rw [PrintableMembers, List.forall_mem_cons, ih]

mutual

/-- Reading back leaves the nesting as it is. -/
theorem depth_of_reread {v w : Json} (h : v.reread? = some w) : w.depth = v.depth := by
  cases v with
  | float x =>
    obtain ⟨y, -, rfl⟩ := Option.map_eq_some_iff.1 h
    rfl
  | arr xs =>
    obtain ⟨ys, hys, rfl⟩ := Option.map_eq_some_iff.1 h
    rw [depth, depth, depthItems_of_reread hys]
  | obj ms =>
    obtain ⟨ns, hns, rfl⟩ := Option.map_eq_some_iff.1 h
    rw [depth, depth, depthMembers_of_reread hns]
  | null | bool | int | str =>
    cases h
    rfl

theorem depthItems_of_reread {xs ys : List Json} (h : rereadItems? xs = some ys) :
    depth.depthItems ys = depth.depthItems xs := by
  cases xs with
  | nil =>
    cases h
    rfl
  | cons x xs =>
    obtain ⟨y, hy, h⟩ := Option.bind_eq_some_iff.1 h
    obtain ⟨ys, hys, rfl⟩ := Option.map_eq_some_iff.1 h
    rw [depth.depthItems, depth.depthItems, depth_of_reread hy, depthItems_of_reread hys]

theorem depthMembers_of_reread {ms ns : List (String × Json)} (h : rereadMembers? ms = some ns) :
    depth.depthMembers ns = depth.depthMembers ms := by
  cases ms with
  | nil =>
    cases h
    rfl
  | cons m ms =>
    obtain ⟨y, hy, h⟩ := Option.bind_eq_some_iff.1 h
    obtain ⟨ns, hns, rfl⟩ := Option.map_eq_some_iff.1 h
    rw [depth.depthMembers, depth.depthMembers, depth_of_reread hy, depthMembers_of_reread hns]

end

/-! ## First characters -/

/-- A character that can start a value and end no list. -/
def Opens (c : Char) : Prop := isSpace c = false ∧ c ≠ ']'

theorem opens_of_isDigit {c : Char} (h : c.isDigit = true) : Opens c := by
  have hne : ∀ d : Char, d.isDigit = false → c ≠ d := fun _ => ne_of_isDigit h
  simp only [Opens, isSpace, Bool.or_eq_false_iff, decide_eq_false_iff_not]
  exact ⟨⟨⟨⟨hne _ rfl, hne _ rfl⟩, hne _ rfl⟩, hne _ rfl⟩, hne _ rfl⟩

theorem chars_eq_cons (v : Json) : ∃ c cs, v.chars = c :: cs ∧ Opens c := by
  cases v with
  | null => exact ⟨_, _, rfl, by decide, by decide⟩
  | bool b => cases b <;> exact ⟨_, _, rfl, by decide, by decide⟩
  | int n =>
    cases n with
    | ofNat n =>
      obtain ⟨c, cs, hcs⟩ := List.exists_cons_of_ne_nil (Nat.toDigits_ne_nil (n := n) (b := 10))
      exact ⟨c, cs, hcs, opens_of_isDigit (IsDigits.toDigits n c (hcs ▸ List.mem_cons_self))⟩
    | negSucc n => exact ⟨_, _, rfl, by decide, by decide⟩
  | float x =>
    obtain ⟨c, cs, hcs, hc⟩ := magnitudeChars_eq_cons x
    rw [chars, chars_eq_magnitudeChars, hcs]
    cases x.negative with
    | true => exact ⟨_, _, rfl, by decide, by decide⟩
    | false => exact ⟨_, _, rfl, opens_of_isDigit hc⟩
  | str s => exact ⟨_, _, rfl, by decide, by decide⟩
  | arr xs => cases xs <;> exact ⟨_, _, rfl, by decide, by decide⟩
  | obj ms => cases ms <;> exact ⟨_, _, rfl, by decide, by decide⟩

theorem endsNumber_cons {c : Char} (h : c = ',' ∨ c = ']' ∨ c = '\x7d') (rest : List Char) :
    EndsNumber (c :: rest) := by
  rcases h with rfl | rfl | rfl <;> simp [EndsNumber]

theorem endsNumber_itemsChars (xs : List Json) (rest : List Char) :
    EndsNumber (itemsChars xs ++ ']' :: rest) := by
  cases xs with
  | nil => exact endsNumber_cons (.inr (.inl rfl)) rest
  | cons x xs => exact endsNumber_cons (.inl rfl) _

theorem endsNumber_membersChars (ms : List (String × Json)) (rest : List Char) :
    EndsNumber (membersChars ms ++ '\x7d' :: rest) := by
  cases ms with
  | nil => exact endsNumber_cons (.inr (.inr rfl)) rest
  | cons m ms => exact endsNumber_cons (.inl rfl) _

theorem skipSpace_cons {c : Char} (h : isSpace c = false) (cs : List Char) :
    skipSpace (c :: cs) = c :: cs := by
  rw [skipSpace, List.dropWhile_cons, h]
  rfl

/-! ## Items and members one by one -/

section Steps

variable {α : Type} {read : Reader α} {n : Nat} {rest : List Char} {ys : List α}

theorem itemsFrom_close (first : Bool) (rest : List Char) :
    itemsFrom read (n + 1) first (']' :: rest) = .ok ([], rest) := by
  cases first <;> rfl

theorem itemsFrom_first {c : Char} (hc : Opens c) (cs : List Char) :
    itemsFrom read (n + 1) true (c :: cs) = (do
      let (x, rest) ← read (c :: cs)
      let (xs, rest) ← itemsFrom read n false rest
      return (x :: xs, rest)) := by
  have hnext : nextItem true (c :: cs) = .ok (true, c :: cs) := by
    rw [nextItem, skipSpace_cons hc.1]
    simp only
    split
    · next h => cases h
    · next h => exact absurd (List.cons.inj h).1 hc.2
    · next h =>
        obtain ⟨rfl, rfl⟩ := List.cons.inj h
        rfl
  rw [itemsFrom, hnext]
  rfl

theorem itemsFrom_next {c : Char} (hc : Opens c) (cs : List Char) :
    itemsFrom read (n + 1) false (',' :: c :: cs) = (do
      let (x, rest) ← read (c :: cs)
      let (xs, rest) ← itemsFrom read n false rest
      return (x :: xs, rest)) := by
  have hnext : nextItem false (',' :: c :: cs) = .ok (true, c :: cs) := by
    rw [nextItem, skipSpace_cons (by decide)]
    split
    · next h => cases h
    · next h => exact absurd (List.cons.inj h).1 (by decide)
    · next h =>
        obtain ⟨rfl, rfl⟩ := List.cons.inj h
        rw [if_neg (by decide), if_pos rfl, skipSpace_cons hc.1]
        split
        · next h => cases h
        · next h => exact absurd (List.cons.inj h).1 hc.2
        · rfl
  rw [itemsFrom, hnext]
  rfl

theorem membersFrom_close (first : Bool) (rest : List Char) :
    membersFrom read (n + 1) first ('\x7d' :: rest) = .ok ([], rest) := by
  cases first <;> rfl

/-- A member is read by its key and its value, the comma before it aside. -/
theorem membersFrom_member (read : Reader α) (n : Nat) (first : Bool) (k : String)
    (cs : List Char) :
    membersFrom read (n + 1) first
        ((if first then [] else [',']) ++ stringChars k ++ ':' :: cs) = (do
      let (x, rest) ← read cs
      let (xs, rest) ← membersFrom read n false rest
      return ((k, x) :: xs, rest)) := by
  have hkey := string_stringChars k (':' :: cs)
  have hnext : nextKey first ((if first then [] else [',']) ++ stringChars k ++ ':' :: cs) =
      .ok (true, k.toList.flatMap escapedChar ++ '"' :: ':' :: cs) := by
    cases first <;> simp [nextKey, stringChars, skipSpace_cons, isSpace]
  rw [membersFrom, hnext]
  simp only [ok_bind, if_true, hkey, colon, skipSpace_cons (show isSpace ':' = false by decide)]

end Steps

/-! ## Whole values -/

theorem length_le_itemsChars (xs : List Json) : xs.length ≤ (itemsChars xs).length := by
  induction xs with
  | nil => simp
  | cons x xs ih =>
    simp only [itemsChars, List.length_cons, List.length_append]
    omega

theorem length_le_membersChars (ms : List (String × Json)) :
    ms.length ≤ (membersChars ms).length := by
  induction ms with
  | nil => simp
  | cons m ms ih =>
    simp only [membersChars, List.length_cons, List.length_append]
    omega

section Values

variable {list : Reader (List Json)} {object : Reader (List (String × Json))}
  {rest rest' : List Char} {w : Json}

theorem valueOf_int {n : Int} (hn : Printable (.int n)) (hrest : EndsNumber rest) :
    valueOf list object (intChars n ++ rest) = .ok (.int n, rest) :=
  (signed_valueOf.intChars n rest).trans (number_intChars hn.1 hn.2 hrest)

theorem valueOf_str (s : String) (rest : List Char) :
    valueOf list object (stringChars s ++ rest) = .ok (.str s, rest) := by
  have hopen : stringChars s ++ rest = '"' :: (s.toList.flatMap escapedChar ++ '"' :: rest) := by
    simp [stringChars]
  rw [hopen, valueOf, skipSpace_cons (by decide)]
  simp only [string_stringChars, ok_bind]
  rfl

theorem valueOf_list (cs : List Char) :
    valueOf list object ('[' :: cs) = (list cs).map fun r => (.arr r.1, r.2) := by
  rw [valueOf, skipSpace_cons (by decide)]
  cases h : list cs <;> simp [h] <;> rfl

theorem valueOf_object (cs : List Char) :
    valueOf list object ('\x7b' :: cs) =
      (object cs).map fun r => (ofRecord (Record.ofList r.1), r.2) := by
  rw [valueOf, skipSpace_cons (by decide)]
  cases h : object cs <;> simp [h] <;> rfl

end Values

/-- Scalars are read alike at every depth. -/
theorem value_eq_valueOf (d : Nat) : ∃ list object, value d = valueOf list object := by
  cases d with
  | zero => exact ⟨_, _, rfl⟩
  | succ d => exact ⟨_, _, rfl⟩

/-- Two readers, one on what the other leaves, succeed in one way if each does. -/
theorem one_then_more_eq_ok {α β γ : Type} {one : Reader α} {more : Reader β} {f : α → β → γ}
    {cs middle rest rest' : List Char} {y : γ} {p q : Prop} {a : Option α} {b : Option β}
    (hone : ∀ r x, one cs = .ok (x, r) ↔ p ∧ a = some x ∧ r = middle)
    (hmore : ∀ r xs, more middle = .ok (xs, r) ↔ q ∧ b = some xs ∧ r = rest) :
    (do
      let (x, rest) ← one cs
      let (xs, rest) ← more rest
      return (f x xs, rest) : Except Fault (γ × List Char)) = .ok (y, rest') ↔
    (p ∧ q) ∧ (a.bind fun x => b.map (f x)) = some y ∧ rest' = rest := by
  rw [bind_eq_ok]
  constructor
  · intro h
    obtain ⟨⟨x, r⟩, hx, h⟩ := h
    obtain ⟨hp, ha, rfl⟩ := (hone r x).1 hx
    obtain ⟨⟨xs, r'⟩, hxs, h⟩ := bind_eq_ok.1 h
    obtain ⟨hq, hb, rfl⟩ := (hmore r' xs).1 hxs
    cases h
    have hab : (a.bind fun x => b.map (f x)) = some (f x xs) := by rw [ha, hb]; rfl
    exact ⟨⟨hp, hq⟩, hab, rfl⟩
  · intro h
    obtain ⟨⟨hp, hq⟩, hy, rfl⟩ := h
    obtain ⟨x, ha, hy⟩ := Option.bind_eq_some_iff.1 hy
    obtain ⟨xs, hb, rfl⟩ := Option.map_eq_some_iff.1 hy
    have hx : one cs = .ok (x, middle) := (hone middle x).2 ⟨hp, ha, rfl⟩
    have hxs : more middle = .ok (xs, rest') := (hmore rest' xs).2 ⟨hq, hb, rfl⟩
    exact ⟨(x, middle), hx, bind_eq_ok.2 ⟨(xs, rest'), hxs, rfl⟩⟩

/-- The items of a list, after its first bracket, are read like items behind commas. -/
theorem arr_chars (xs : List Json) (rest : List Char) :
    ∃ cs, chars (.arr xs) ++ rest = '[' :: cs ∧ xs.length ≤ cs.length ∧
      ∀ (read : Reader Json) (n : Nat), itemsFrom read (n + 1) true cs =
        itemsFrom read (n + 1) false (itemsChars xs ++ ']' :: rest) := by
  cases xs with
  | nil => exact ⟨']' :: rest, rfl, by simp, fun _ _ => rfl⟩
  | cons x xs =>
    obtain ⟨c, cs, hcs, hc⟩ := chars_eq_cons x
    have hlen := length_le_itemsChars xs
    refine ⟨c :: cs ++ itemsChars xs ++ ']' :: rest, by simp [chars, hcs], ?_, fun read n => ?_⟩
    · simp only [List.length_cons, List.length_append]
      omega
    · simp only [itemsChars, hcs, List.cons_append, List.append_assoc]
      rw [itemsFrom_first hc, itemsFrom_next hc]

theorem itemsFrom_itemsChars {read : Reader Json} {n : Nat} (x : Json) (xs : List Json)
    (rest : List Char) :
    itemsFrom read (n + 1) false (itemsChars (x :: xs) ++ ']' :: rest) = (do
      let (x, rest) ← read (x.chars ++ (itemsChars xs ++ ']' :: rest))
      let (xs, rest) ← itemsFrom read n false rest
      return (x :: xs, rest)) := by
  obtain ⟨c, cs, hcs, hc⟩ := chars_eq_cons x
  simp only [itemsChars, hcs, List.cons_append, List.append_assoc]
  exact itemsFrom_next hc _

/-- The members of an object, after its first brace, are read like members behind commas. -/
theorem obj_chars (ms : List (String × Json)) (rest : List Char) :
    ∃ cs, chars (.obj ms) ++ rest = '\x7b' :: cs ∧ ms.length ≤ cs.length ∧
      ∀ (read : Reader Json) (n : Nat), membersFrom read (n + 1) true cs =
        membersFrom read (n + 1) false (membersChars ms ++ '\x7d' :: rest) := by
  cases ms with
  | nil => exact ⟨'\x7d' :: rest, rfl, by simp, fun _ _ => rfl⟩
  | cons m ms =>
    obtain ⟨k, x⟩ := m
    have hlen := length_le_membersChars ms
    refine ⟨stringChars k ++ ':' :: (x.chars ++ membersChars ms ++ '\x7d' :: rest),
      by simp [chars], ?_, fun read n => ?_⟩
    · simp only [List.length_cons, List.length_append]
      omega
    · have hfirst := membersFrom_member read n true k
        (x.chars ++ membersChars ms ++ '\x7d' :: rest)
      have hnext := membersFrom_member read n false k
        (x.chars ++ membersChars ms ++ '\x7d' :: rest)
      simp only [membersChars, if_true, Bool.false_eq_true, if_false, List.nil_append,
        List.cons_append, List.append_assoc] at hfirst hnext ⊢
      rw [hfirst, hnext]

theorem membersFrom_membersChars {read : Reader Json} {n : Nat} (k : String) (x : Json)
    (ms : List (String × Json)) (rest : List Char) :
    membersFrom read (n + 1) false (membersChars ((k, x) :: ms) ++ '\x7d' :: rest) = (do
      let (x, rest) ← read (x.chars ++ (membersChars ms ++ '\x7d' :: rest))
      let (ms, rest) ← membersFrom read n false rest
      return ((k, x) :: ms, rest)) := by
  have hnext := membersFrom_member read n false k
    (x.chars ++ (membersChars ms ++ '\x7d' :: rest))
  simp only [membersChars, Bool.false_eq_true, if_false, List.nil_append,
    List.cons_append, List.append_assoc] at hnext ⊢
  exact hnext

/-- Members in the order of their names are a record as they stand, also after reading. -/
theorem entries_ofList_reread {ms ns : List (String × Json)}
    (hms : (ms.map Prod.fst).Pairwise (· < ·)) (h : rereadMembers? ms = some ns) :
    (Record.ofList ns).entries = ns := by
  rw [← names_rereadMembers? h] at hms
  exact Record.entries_ofList hms

mutual

theorem WellFormed.printable {v : Json} (h : v.WellFormed) : v.Printable := by
  cases v with
  | int n => exact h
  | arr xs => exact WellFormedItems.printable h
  | obj ms => exact WellFormedMembers.printable h.2
  | _ => trivial

theorem WellFormedItems.printable {xs : List Json} (h : WellFormedItems xs) :
    PrintableItems xs := by
  cases xs with
  | nil => trivial
  | cons x xs => exact ⟨WellFormed.printable h.1, WellFormedItems.printable h.2⟩

theorem WellFormedMembers.printable {ms : List (String × Json)} (h : WellFormedMembers ms) :
    PrintableMembers ms := by
  cases ms with
  | nil => trivial
  | cons m ms => exact ⟨WellFormed.printable h.1, WellFormedMembers.printable h.2⟩

end

mutual

/-- Only the floating numbers of a well-formed value can change. -/
theorem WellFormed.readBack?_eq {v : Json} (h : v.WellFormed) : v.readBack? = v.reread? := by
  cases v with
  | arr xs => rw [readBack?, reread?, WellFormedItems.readBackItems?_eq h]
  | obj ms =>
    rw [readBack?, reread?, WellFormedMembers.readBackMembers?_eq h.2]
    refine Option.map_congr fun ns hns => ?_
    rw [ofRecord, entries_ofList_reread h.1 hns]
  | _ => rfl

theorem WellFormedItems.readBackItems?_eq {xs : List Json} (h : WellFormedItems xs) :
    readBackItems? xs = rereadItems? xs := by
  cases xs with
  | nil => rfl
  | cons x xs =>
    rw [readBackItems?, rereadItems?, WellFormed.readBack?_eq h.1,
      WellFormedItems.readBackItems?_eq h.2]

theorem WellFormedMembers.readBackMembers?_eq {ms : List (String × Json)}
    (h : WellFormedMembers ms) : readBackMembers? ms = rereadMembers? ms := by
  cases ms with
  | nil => rfl
  | cons m ms =>
    rw [readBackMembers?, rereadMembers?, WellFormed.readBack?_eq h.1,
      WellFormedMembers.readBackMembers?_eq h.2]

end

mutual

/-- The text of a value is read exactly if it does not nest too deep and its floating numbers can
all be read. -/
theorem value_chars (v : Json) {d : Nat} {rest rest' : List Char} {w : Json} (hv : v.Printable)
    (hrest : EndsNumber rest) :
    value d (v.chars ++ rest) = .ok (w, rest') ↔
      v.depth ≤ d ∧ v.readBack? = some w ∧ rest' = rest := by
  -- only lists and objects look at the depth
  obtain ⟨list, object, hd⟩ := value_eq_valueOf d
  cases v with
  | null =>
    rw [hd]
    simp [chars, valueOf, skipSpace_cons, isSpace, word, depth, readBack?, eq_comm]
  | bool b =>
    rw [hd]
    cases b <;> simp [chars, valueOf, skipSpace_cons, isSpace, word, depth, readBack?, eq_comm]
  | int n =>
    rw [hd, chars, valueOf_int hv hrest]
    simp [depth, readBack?, eq_comm]
  | float x =>
    rw [hd, chars, valueOf_float hrest]
    simp only [depth, Nat.zero_le, true_and, readBack?, Option.map_eq_some_iff]
    constructor
    · intro h
      obtain ⟨y, hy, rfl, rfl⟩ := h
      exact ⟨⟨y, hy, rfl⟩, rfl⟩
    · intro h
      obtain ⟨⟨y, hy, rfl⟩, rfl⟩ := h
      exact ⟨y, hy, rfl, rfl⟩
  | str s =>
    rw [hd, chars, valueOf_str]
    simp [depth, readBack?, eq_comm]
  | arr xs =>
    obtain ⟨cs, hcs, hlen, hfirst⟩ := arr_chars xs rest
    rw [hcs, depth]
    cases d with
    | zero =>
      rw [value, valueOf_list]
      simp [Except.map]
    | succ d =>
      rw [value, valueOf_list, items, hfirst]
      simp only [map_eq_ok, Prod.exists, Prod.mk.injEq,
        items_chars xs hv (Nat.lt_succ_of_le hlen), readBack?, Option.map_eq_some_iff]
      constructor
      · intro h
        obtain ⟨ys, _, ⟨hdepth, hys, rfl⟩, rfl, rfl⟩ := h
        exact ⟨by omega, ⟨ys, hys, rfl⟩, rfl⟩
      · intro h
        obtain ⟨hdepth, ⟨ys, hys, rfl⟩, rfl⟩ := h
        exact ⟨ys, _, ⟨by omega, hys, rfl⟩, rfl, rfl⟩
  | obj ms =>
    obtain ⟨cs, hcs, hlen, hfirst⟩ := obj_chars ms rest
    rw [hcs, depth]
    cases d with
    | zero =>
      rw [value, valueOf_object]
      simp [Except.map]
    | succ d =>
      rw [value, valueOf_object, members, hfirst]
      simp only [map_eq_ok, Prod.exists, Prod.mk.injEq,
        members_chars ms hv (Nat.lt_succ_of_le hlen), readBack?, Option.map_eq_some_iff]
      constructor
      · intro h
        obtain ⟨ns, _, ⟨hdepth, hns, rfl⟩, rfl, rfl⟩ := h
        exact ⟨by omega, ⟨ns, hns, rfl⟩, rfl⟩
      · intro h
        obtain ⟨hdepth, ⟨ns, hns, rfl⟩, rfl⟩ := h
        exact ⟨ns, _, ⟨by omega, hns, rfl⟩, rfl, rfl⟩

theorem items_chars (xs : List Json) {n d : Nat} {rest rest' : List Char} {ys : List Json}
    (hxs : PrintableItems xs) (hn : xs.length < n) :
    itemsFrom (value d) n false (itemsChars xs ++ ']' :: rest) = .ok (ys, rest') ↔
      depth.depthItems xs ≤ d ∧ readBackItems? xs = some ys ∧ rest' = rest := by
  obtain ⟨n, rfl⟩ : ∃ m, n = m + 1 := ⟨n - 1, by omega⟩
  cases xs with
  | nil =>
    rw [itemsChars, List.nil_append, itemsFrom_close]
    simp [depth.depthItems, readBackItems?, eq_comm]
  | cons x xs =>
    have hvalue : ∀ r y, value d (x.chars ++ (itemsChars xs ++ ']' :: rest)) = .ok (y, r) ↔
        x.depth ≤ d ∧ x.readBack? = some y ∧ r = itemsChars xs ++ ']' :: rest := fun _ _ =>
      value_chars x hxs.1 (endsNumber_itemsChars xs rest)
    have hmore : ∀ r zs, itemsFrom (value d) n false (itemsChars xs ++ ']' :: rest) = .ok (zs, r) ↔
        depth.depthItems xs ≤ d ∧ readBackItems? xs = some zs ∧ r = rest := fun _ _ =>
      items_chars xs hxs.2 (by simpa using hn)
    rw [itemsFrom_itemsChars, one_then_more_eq_ok hvalue hmore, depth.depthItems, Nat.max_le]
    rfl

theorem members_chars (ms : List (String × Json)) {n d : Nat} {rest rest' : List Char}
    {ns : List (String × Json)} (hms : PrintableMembers ms) (hn : ms.length < n) :
    membersFrom (value d) n false (membersChars ms ++ '\x7d' :: rest) = .ok (ns, rest') ↔
      depth.depthMembers ms ≤ d ∧ readBackMembers? ms = some ns ∧ rest' = rest := by
  obtain ⟨n, rfl⟩ : ∃ m, n = m + 1 := ⟨n - 1, by omega⟩
  cases ms with
  | nil =>
    rw [membersChars, List.nil_append, membersFrom_close]
    simp [depth.depthMembers, readBackMembers?, eq_comm]
  | cons m ms =>
    obtain ⟨k, x⟩ := m
    have hvalue : ∀ r y, value d (x.chars ++ (membersChars ms ++ '\x7d' :: rest)) = .ok (y, r) ↔
        x.depth ≤ d ∧ x.readBack? = some y ∧ r = membersChars ms ++ '\x7d' :: rest := fun _ _ =>
      value_chars x hms.1 (endsNumber_membersChars ms rest)
    have hmore : ∀ r zs,
        membersFrom (value d) n false (membersChars ms ++ '\x7d' :: rest) = .ok (zs, r) ↔
          depth.depthMembers ms ≤ d ∧ readBackMembers? ms = some zs ∧ r = rest := fun _ _ =>
      members_chars ms hms.2 (by simpa using hn)
    rw [membersFrom_membersChars, one_then_more_eq_ok (f := fun x ms => (k, x) :: ms) hvalue hmore,
      depth.depthMembers, Nat.max_le]
    rfl

end

/-- A whole text. -/
theorem parse_text_eq_ok {v w : Json} (hv : v.Printable) :
    parse v.text = .ok w ↔ v.depth ≤ depthLimit ∧ v.readBack? = some w := by
  have hvalue : ∀ w rest, value depthLimit v.chars = .ok (w, rest) ↔
      v.depth ≤ depthLimit ∧ v.readBack? = some w ∧ rest = [] := by
    intro w rest
    have hread : value depthLimit (v.chars ++ []) = .ok (w, rest) ↔ _ :=
      value_chars v hv endsNumber_nil
    rwa [List.append_nil] at hread
  rw [parse, readAll, text, String.toList_ofList, bind_eq_ok]
  constructor
  · intro h
    obtain ⟨⟨x, rest⟩, hx, h⟩ := h
    obtain ⟨hdepth, hread, rfl⟩ := (hvalue x rest).1 hx
    cases h
    exact ⟨hdepth, hread⟩
  · intro h
    exact ⟨(w, []), (hvalue w []).2 ⟨h.1, h.2, rfl⟩, rfl⟩

end Backlog.Json
