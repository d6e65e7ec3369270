import Backlog.Json.Decoder
import Backlog.Proofs.Result

/-!
# Objects that a layout accepts

The members of an object are read in the order of their names, and each puts what it carries into
the state. What is known of the state in the end does not depend on that order.

**Main statements.** `Layout.exists_fieldsOf_iff`: an object is read exactly if each of its members
is one that can be read (`Layout.Reads`). `Layout.Slot.rel_get`: in the end, a slot of the state
holds what the member of its name carries.
-/

namespace Backlog.Json

variable {σ α β : Type}

/-! ## Members and slots -/

/-- A slot takes what such a member carries, and holds what was read last. -/
structure Member.Fills (m : Member σ) (get : σ → Option β) (read : Json → Except Fault β) :
    Prop where
  takes : ∀ v x, read v = .ok x → ∃ put, m.decoder.fromJson v = .ok put
  holds : ∀ v put, m.decoder.fromJson v = .ok put → ∃ x, read v = .ok x ∧ ∀ s, get (put s) = some x

/-- A slot holds what it held before the member was read. -/
def Member.Keeps (m : Member σ) (get : σ → Option β) : Prop :=
  ∀ v put, m.decoder.fromJson v = .ok put → ∀ s, get (put s) = get s

section OfDecoder

variable {get : σ → Option β} {name : String} {filled : σ → Bool} {mayEnd : Bool}

theorem Member.fills_map {d : Decoder β} {put : β → σ → σ} (h : ∀ x s, get (put x s) = some x) :
    (Member.mk name filled (d.map put) mayEnd).Fills get d.fromJson := by
  refine ⟨fun v x hx => ⟨put x, map_eq_ok.2 ⟨x, hx, rfl⟩⟩, fun v f hf => ?_⟩
  obtain ⟨x, hx, rfl⟩ := map_eq_ok.1 hf
  exact ⟨x, hx, h x⟩

theorem Member.keeps_map {d : Decoder α} {put : α → σ → σ} (h : ∀ x s, get (put x s) = get s) :
    (Member.mk name filled (d.map put) mayEnd).Keeps get := by
  intro v f hf
  obtain ⟨x, -, rfl⟩ := map_eq_ok.1 hf
  exact h x

end OfDecoder

namespace Layout

variable {l : Layout σ α} {es : List (String × Json)} {r : Record Json} {s s' : σ} {name : String}

/-- A member of such a name and value can be read. -/
def Reads (l : Layout σ α) (name : String) (v : Json) : Prop :=
  match l.find? name with
  | some m => ∃ put, m.decoder.fromJson v = .ok put
  | none => l.closed = false

theorem exists_fieldsOf_iff :
    (∃ s', l.fieldsOf es s = .ok s') ↔ ∀ e ∈ es, l.Reads e.1 e.2 := by
  induction es generalizing s with
  | nil => simp [fieldsOf]
  | cons e es ih =>
    rw [List.forall_mem_cons, Reads, fieldsOf.eq_def]
    simp only
    cases l.find? e.1 with
    | none =>
      simp only
      split
      next hclosed => simp [hclosed]
      next hopen => simp [hopen, ih]
    | some m =>
      cases hput : m.decoder.fromJson e.2 with
      | error f => simp [hput]
      | ok put => simp [hput, ih]

/-- Every member of an object can be read. -/
def ReadsAll (l : Layout σ α) (r : Record Json) : Prop := ∀ e ∈ r.entries, l.Reads e.1 e.2

theorem readsAll_of_fieldsOf (h : l.fieldsOf r.entries s = .ok s') : l.ReadsAll r :=
  exists_fieldsOf_iff.1 ⟨s', h⟩

theorem readsAll_ofList {ms : List (String × Json)} (h : ∀ e ∈ ms, l.Reads e.1 e.2) :
    l.ReadsAll (Record.ofList ms) := by
  intro e he
  have hfound := Record.mem_entries_iff.1 he
  rw [Record.find?_ofList] at hfound
  exact h e (List.mem_reverse.1 (Record.mem_of_lookup hfound))

theorem fromObject_eq_ok {ms : List (String × Json)} {x : α} : l.fromObject ms = .ok x ↔
    ∃ s, l.fieldsOf (Record.ofList ms).entries l.start = .ok s ∧ l.finish s = .ok x :=
  bind_eq_ok

/-- An object is read as a value exactly if all its members can be read and the value is what the
layout makes of the state that they lead to. -/
theorem fromObject_eq_ok_iff {ms : List (String × Json)} {x : α} {P : Prop}
    (h : ∀ s, l.fieldsOf (Record.ofList ms).entries l.start = .ok s → (l.finish s = .ok x ↔ P)) :
    l.fromObject ms = .ok x ↔ l.ReadsAll (Record.ofList ms) ∧ P := by
  rw [fromObject_eq_ok]
  apply Iff.intro
  · intro hread
    obtain ⟨s, hs, hfinish⟩ := hread
    exact ⟨readsAll_of_fieldsOf hs, (h s hs).1 hfinish⟩
  · intro hall
    obtain ⟨hall, hp⟩ := hall
    obtain ⟨s, hs⟩ := exists_fieldsOf_iff.2 hall
    exact ⟨s, hs, (h s hs).2 hp⟩

/-- A part of the state that one member fills and the others keep. -/
structure Slot (l : Layout σ α) (name : String) (get : σ → Option β)
    (read : Json → Except Fault β) : Prop where
  empty : get l.start = none
  fills : ∃ m, l.find? name = some m ∧ m.Fills get read
  keeps : ∀ m ∈ l.members, m.name ≠ name → m.Keeps get

section Slots

variable {get : σ → Option β} {read : Json → Except Fault β} {x : β}

theorem Slot.reads (slot : l.Slot name get read) {v : Json} (h : read v = .ok x) :
    l.Reads name v := by
  obtain ⟨m, hm, hfills⟩ := slot.fills
  rw [Reads, hm]
  exact hfills.takes v x h

/-- Only the member of its name changes a slot. The induction is on the members of the object, from
any state. -/
theorem Slot.get_fieldsOf (slot : l.Slot name get read) (hes : (es.map Prod.fst).Nodup)
    (h : l.fieldsOf es s = .ok s') :
    (Record.lookup name es = none → get s' = get s) ∧
      ∀ v, Record.lookup name es = some v → ∃ x, read v = .ok x ∧ get s' = some x := by
  induction es generalizing s with
  | nil =>
    cases h
    simp [Record.lookup]
  | cons e es ih =>
    obtain ⟨k, w⟩ := e
    rw [List.map_cons, List.nodup_cons] at hes
    obtain ⟨hk, hes⟩ := hes
    rw [fieldsOf.eq_def] at h
    simp only at h
    rw [Record.lookup]
    by_cases hname : k = name
    · subst hname
      obtain ⟨m, hm, hfills⟩ := slot.fills
      simp only [hm, bind_eq_ok] at h
      obtain ⟨put, hput, hrest⟩ := h
      obtain ⟨x, hx, hget⟩ := hfills.holds w put hput
      have hkept := (ih hes hrest).1 (Record.lookup_eq_none.2 hk)
      simp only [if_true, reduceCtorEq, false_implies, Option.some.injEq, true_and]
      intro v hv
      subst hv
      exact ⟨x, hx, hkept.trans (hget s)⟩
    · simp only [if_neg hname]
      cases hm : l.find? k with
      | none =>
        simp only [hm] at h
        split at h
        · cases h
        · exact ih hes h
      | some m =>
        simp only [hm, bind_eq_ok] at h
        obtain ⟨put, hput, hrest⟩ := h
        have hmname : m.name = k := by simpa using List.find?_some hm
        have hkeeps := slot.keeps m (List.mem_of_find?_eq_some hm) (hmname ▸ hname) w put hput s
        rw [← hkeeps]
        exact ih hes hrest

/-- In the end a slot holds what the member of its name carries. -/
theorem Slot.rel_get (slot : l.Slot name get read)
    (h : l.fieldsOf r.entries l.start = .ok s) :
    Option.Rel (fun v x => read v = .ok x) (r.find? name) (get s) := by
  have hnames : (r.entries.map Prod.fst).Nodup :=
    r.sorted.imp fun hlt => String.ne_of_lt hlt
  obtain ⟨hnone, hsome⟩ := slot.get_fieldsOf hnames h
  cases hv : r.find? name with
  | none =>
    rw [hnone hv, slot.empty]
    exact .none
  | some v =>
    obtain ⟨x, hx, hget⟩ := hsome v hv
    rw [hget]
    exact .some hx

theorem Slot.get_eq_some_iff (slot : l.Slot name get read)
    (h : l.fieldsOf r.entries l.start = .ok s) :
    get s = some x ↔ ∃ v, r.find? name = some v ∧ read v = .ok x := by
  have hrel := slot.rel_get h
  generalize r.find? name = given, get s = held at hrel
  cases hrel with
  | none => simp
  | some hread => simp [hread]

theorem Slot.get_eq_none_iff (slot : l.Slot name get read)
    (h : l.fieldsOf r.entries l.start = .ok s) : get s = none ↔ r.find? name = none := by
  have hrel := slot.rel_get h
  generalize r.find? name = given, get s = held at hrel
  cases hrel <;> simp

end Slots

/-! ## Closed layouts -/

theorem find?_eq_none_of_closed (hclosed : l.closed = true) (h : l.ReadsAll r)
    (hname : l.find? name = none) : r.find? name = none := by
  cases hv : r.find? name with
  | none => rfl
  | some v =>
    have hreads := h (name, v) (Record.mem_entries_iff.2 hv)
    simp [Reads, hname, hclosed] at hreads

/-- Objects that a closed layout reads are equal if they agree in the members that it knows. -/
theorem eq_of_closed (hclosed : l.closed = true) {r' : Record Json} (h : l.ReadsAll r)
    (h' : l.ReadsAll r') (hsame : ∀ m ∈ l.members, r.find? m.name = r'.find? m.name) : r = r' := by
  refine Record.ext_find? fun name => ?_
  cases hm : l.find? name with
  | none => rw [find?_eq_none_of_closed hclosed h hm, find?_eq_none_of_closed hclosed h' hm]
  | some m =>
    have hmname : m.name = name := by simpa using List.find?_some hm
    exact hmname ▸ hsame m (List.mem_of_find?_eq_some hm)

end Layout

end Backlog.Json
