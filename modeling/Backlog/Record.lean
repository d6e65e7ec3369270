/-!
# Records

A record holds values under names, each name once, in the order of code points.

**One representation.** The entries are strictly sorted, and the type carries the proof, so two
records that answer every lookup alike are equal (`Record.ext_find?`).

**View.** Every operation is described by its lookups: `find?_insert`, `find?_erase`,
`find?_ofList`.
-/

namespace Backlog

/-- Values under names, each name once, in code point order. -/
structure Record (α : Type) where
  entries : List (String × α)
  sorted : (entries.map Prod.fst).Pairwise (· < ·)

namespace Record

variable {α β : Type}

instance [DecidableEq α] : DecidableEq (Record α) := fun a b =>
  decidable_of_iff (a.entries = b.entries) (by cases a; cases b; simp)

instance [Repr α] : Repr (Record α) := ⟨fun r n => reprPrec r.entries n⟩

instance : Inhabited (Record α) := ⟨⟨[], .nil⟩⟩

def empty : Record α := ⟨[], .nil⟩

def names (r : Record α) : List String := r.entries.map Prod.fst

def toList (r : Record α) : List (String × α) := r.entries

def size (r : Record α) : Nat := r.entries.length

/-! ## Lookup -/

/-- The value under a name in a list of entries, the first if there are several. -/
def lookup (name : String) : List (String × α) → Option α
  | [] => none
  | (k, v) :: rest => if k = name then some v else lookup name rest

def find? (r : Record α) (name : String) : Option α := lookup name r.entries

def contains (r : Record α) (name : String) : Bool := (r.find? name).isSome

/-! ## Change -/

/-- Puts an entry at its place, over an older one of the same name. -/
def insertEntry (name : String) (value : α) : List (String × α) → List (String × α)
  | [] => [(name, value)]
  | (k, v) :: rest =>
    if name < k then (name, value) :: (k, v) :: rest
    else if name = k then (name, value) :: rest
    else (k, v) :: insertEntry name value rest

theorem mem_insertEntry {name : String} {value : α} {e : String × α} {l : List (String × α)}
    (h : e ∈ insertEntry name value l) : e = (name, value) ∨ e ∈ l := by
  induction l with
  | nil => simpa [insertEntry] using h
  | cons x rest ih =>
    obtain ⟨k, v⟩ := x
    rw [insertEntry] at h
    split at h
    · simpa using h
    · split at h
      · simp only [List.mem_cons] at h ⊢
        exact h.imp_right Or.inr
      · simp only [List.mem_cons] at h ⊢
        rcases h with h | h
        · exact .inr (.inl h)
        · exact (ih h).imp_right Or.inr

theorem lt_of_not_lt_of_ne {a b : String} (h : ¬ a < b) (hne : a ≠ b) : b < a := by
  apply Decidable.byContradiction
  intro hba
  exact hne (String.le_antisymm (String.not_lt.1 hba) (String.not_lt.1 h))

theorem sorted_insertEntry (name : String) (value : α) {l : List (String × α)}
    (h : (l.map Prod.fst).Pairwise (· < ·)) :
    ((insertEntry name value l).map Prod.fst).Pairwise (· < ·) := by
  induction l with
  | nil => simp [insertEntry]
  | cons x rest ih =>
    obtain ⟨k, v⟩ := x
    simp only [List.map_cons, List.pairwise_cons] at h
    rw [insertEntry]
    split
    next hlt =>
      simp only [List.map_cons, List.pairwise_cons, List.mem_cons, forall_eq_or_imp]
      exact ⟨⟨hlt, fun a ha => String.lt_trans hlt (h.1 a ha)⟩, h⟩
    next hlt =>
      split
      next heq =>
        subst heq
        simpa using h
      next hne =>
        simp only [List.map_cons, List.pairwise_cons]
        refine ⟨fun a ha => ?_, ih h.2⟩
        obtain ⟨e, he, rfl⟩ := List.mem_map.1 ha
        rcases mem_insertEntry he with rfl | he
        · exact lt_of_not_lt_of_ne hlt hne
        · exact h.1 _ (List.mem_map_of_mem he)

def insert (r : Record α) (name : String) (value : α) : Record α :=
  ⟨insertEntry name value r.entries, sorted_insertEntry name value r.sorted⟩

/-- Takes the entry of a name away, if there is one. -/
def erase (r : Record α) (name : String) : Record α :=
  ⟨r.entries.filter (·.1 ≠ name), r.sorted.sublist (List.Sublist.map _ List.filter_sublist)⟩

/-- Reads entries in order; of a name given twice the last value stays. -/
def ofList (entries : List (String × α)) : Record α :=
  entries.foldl (fun r e => r.insert e.1 e.2) empty

/-- Puts every entry of the second record over the first. -/
def union (r s : Record α) : Record α :=
  s.entries.foldl (fun r e => r.insert e.1 e.2) r

def map (f : α → β) (r : Record α) : Record β :=
  ⟨r.entries.map fun e => (e.1, f e.2), by simpa [Function.comp_def] using r.sorted⟩

/-! ## The view -/

theorem lookup_eq_none {name : String} {l : List (String × α)} :
    lookup name l = none ↔ name ∉ l.map Prod.fst := by
  induction l with
  | nil => simp [lookup]
  | cons e rest ih =>
    obtain ⟨k, v⟩ := e
    rw [lookup]
    split
    next h => simp [h]
    next h => simp [ih, Ne.symm h]

theorem lookup_insertEntry (name : String) (value : α) (l : List (String × α)) (other : String) :
    lookup other (insertEntry name value l) =
      if name = other then some value else lookup other l := by
  induction l with
  | nil => simp [insertEntry, lookup]
  | cons e rest ih =>
    obtain ⟨k, v⟩ := e
    rw [insertEntry]
    split
    next => simp [lookup]
    next =>
      split
      next heq => subst heq; by_cases h : name = other <;> simp [lookup, h]
      next hne =>
        rw [lookup, ih, lookup]
        by_cases hk : k = other
        · subst hk; simp [hne]
        · simp [hk]

@[simp]
theorem find?_empty (name : String) : (empty : Record α).find? name = none := rfl

theorem find?_insert (r : Record α) (name : String) (value : α) (other : String) :
    (r.insert name value).find? other = if name = other then some value else r.find? other :=
  lookup_insertEntry name value r.entries other

theorem find?_erase (r : Record α) (name other : String) :
    (r.erase name).find? other = if name = other then none else r.find? other := by
  unfold find? erase
  simp only
  induction r.entries with
  | nil => simp [lookup]
  | cons e rest ih =>
    obtain ⟨k, v⟩ := e
    by_cases hk : k = name
    · subst hk
      simp only [ne_eq, not_true_eq_false, decide_false, Bool.false_eq_true, not_false_eq_true,
        List.filter_cons_of_neg, ih, lookup]
      by_cases h : k = other <;> simp [h]
    · simp only [ne_eq, hk, not_false_eq_true, decide_true, List.filter_cons_of_pos, lookup, ih]
      by_cases h : k = other
      · subst h; simp [Ne.symm hk]
      · simp [h]

theorem lookup_map (f : α → β) (name : String) (l : List (String × α)) :
    lookup name (l.map fun e => (e.1, f e.2)) = (lookup name l).map f := by
  induction l with
  | nil => rfl
  | cons e rest ih =>
    obtain ⟨k, v⟩ := e
    by_cases h : k = name <;> simp [lookup, h, ih]

theorem foldl_insert_find? (l : List (String × α)) (r : Record α) (name : String) :
    (l.foldl (fun r e => r.insert e.1 e.2) r).find? name =
      (lookup name l.reverse).or (r.find? name) := by
  induction l generalizing r with
  | nil => simp [lookup]
  | cons e rest ih =>
    rw [List.foldl_cons, ih, List.reverse_cons, find?_insert]
    have happ : ∀ (l : List (String × α)), lookup name (l ++ [e]) =
        (lookup name l).or (if e.1 = name then some e.2 else none) := by
      intro l
      induction l with
      | nil => simp [lookup]
      | cons x xs ihx =>
        obtain ⟨k, v⟩ := x
        by_cases h : k = name <;> simp [lookup, h, ihx]
    rw [happ]
    cases lookup name rest.reverse <;> by_cases h : e.1 = name <;> simp [h]

theorem find?_ofList (l : List (String × α)) (name : String) :
    (ofList l).find? name = lookup name l.reverse := by
  simp [ofList, foldl_insert_find?]

theorem mem_of_lookup {name : String} {value : α} {l : List (String × α)}
    (h : lookup name l = some value) : (name, value) ∈ l := by
  induction l with
  | nil => simp [lookup] at h
  | cons e rest ih =>
    obtain ⟨k, v⟩ := e
    rw [lookup] at h
    split at h
    next hk => simp_all
    next => exact List.mem_cons_of_mem _ (ih h)

theorem lookup_of_mem {name : String} {value : α} {l : List (String × α)}
    (hs : (l.map Prod.fst).Pairwise (· < ·)) (h : (name, value) ∈ l) :
    lookup name l = some value := by
  induction l with
  | nil => simp at h
  | cons e rest ih =>
    obtain ⟨k, v⟩ := e
    simp only [List.map_cons, List.pairwise_cons] at hs
    rw [lookup]
    rcases List.mem_cons.1 h with h | h
    · simp_all
    · have hlt := hs.1 name (List.mem_map.2 ⟨_, h, rfl⟩)
      have hne : k ≠ name := fun he => String.lt_irrefl _ (he ▸ hlt)
      simp [hne, ih hs.2 h]

theorem mem_entries_iff {r : Record α} {name : String} {value : α} :
    (name, value) ∈ r.entries ↔ r.find? name = some value :=
  ⟨lookup_of_mem r.sorted, mem_of_lookup⟩

theorem mem_names_iff {r : Record α} {name : String} :
    name ∈ r.names ↔ (r.find? name).isSome := by
  rw [Option.isSome_iff_ne_none, ne_eq, find?, lookup_eq_none, Decidable.not_not]
  rfl

theorem entries_ext {l m : List (String × α)} (hl : (l.map Prod.fst).Pairwise (· < ·))
    (hm : (m.map Prod.fst).Pairwise (· < ·)) (h : ∀ name, lookup name l = lookup name m) :
    l = m := by
  induction l generalizing m with
  | nil =>
    cases m with
    | nil => rfl
    | cons e rest => simpa [lookup] using h e.1
  | cons e rest ih =>
    obtain ⟨k, v⟩ := e
    cases m with
    | nil => simpa [lookup] using h k
    | cons e' rest' =>
      obtain ⟨k', v'⟩ := e'
      simp only [List.map_cons, List.pairwise_cons] at hl hm
      have hk : k = k' := by
        apply Decidable.byContradiction
        intro hne
        have h1 := h k
        have h2 := h k'
        simp only [lookup, if_true, hne, Ne.symm hne, if_false] at h1 h2
        have m1 : k ∈ rest'.map Prod.fst :=
          List.mem_map.2 ⟨_, mem_of_lookup h1.symm, rfl⟩
        have m2 : k' ∈ rest.map Prod.fst := List.mem_map.2 ⟨_, mem_of_lookup h2, rfl⟩
        exact String.lt_irrefl _ (String.lt_trans (hl.1 _ m2) (hm.1 _ m1))
      subst hk
      have hv : v = v' := by simpa [lookup] using h k
      subst hv
      rw [ih hl.2 hm.2 fun name => ?_]
      have hn := h name
      by_cases hkn : k = name
      · subst hkn
        have n1 : k ∉ rest.map Prod.fst := fun hm' => String.lt_irrefl _ (hl.1 _ hm')
        have n2 : k ∉ rest'.map Prod.fst := fun hm' => String.lt_irrefl _ (hm.1 _ hm')
        rw [lookup_eq_none.2 n1, lookup_eq_none.2 n2]
      · simpa [lookup, hkn] using hn

/-- Records that answer every lookup alike are equal. -/
theorem ext_find? {r s : Record α} (h : ∀ name, r.find? name = s.find? name) : r = s := by
  obtain ⟨l, hl⟩ := r
  obtain ⟨m, hm⟩ := s
  have : l = m := entries_ext hl hm h
  subst this
  rfl

/-- Reading a record's own entries gives the record back. -/
theorem ofList_entries (r : Record α) : ofList r.entries = r := by
  apply ext_find?
  intro name
  rw [find?_ofList]
  cases hf : r.find? name with
  | none =>
    rw [lookup_eq_none, List.map_reverse, List.mem_reverse]
    exact lookup_eq_none.1 hf
  | some v =>
    have hm := mem_entries_iff.2 hf
    cases hl : lookup name r.entries.reverse with
    | none =>
      rw [lookup_eq_none, List.map_reverse, List.mem_reverse] at hl
      exact absurd (List.mem_map.2 ⟨_, hm, rfl⟩) hl
    | some w =>
      have := mem_entries_iff.1 (List.mem_reverse.1 (mem_of_lookup hl))
      rw [← hf, ← this]

/-- Entries that are sorted already stay as they are. -/
theorem entries_ofList {l : List (String × α)} (h : (l.map Prod.fst).Pairwise (· < ·)) :
    (ofList l).entries = l :=
  congrArg entries (ofList_entries ⟨l, h⟩)

end Record

end Backlog
