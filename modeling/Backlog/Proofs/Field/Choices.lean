import Backlog.Proofs.Field.RoundTrip
import Backlog.Proofs.Field.Stored

/-!
# Enumerations from their shown values

An enumeration is given as values in wire shape and keeps them in storage shape. Given the values
that it shows, it comes back.

**Main statements.** `Choices.ofWire_shown_iff`: the values that an enumeration shows, printed and
read, make the same enumeration exactly if they are read as they were written and no instant among
them lies outside the years of four digits. `Choices.exists_ofWire_shown_iff`: they make some
enumeration exactly under the second condition.
-/

namespace Backlog

open Moment (InPlainYears)

/-! ## Collecting values -/

namespace Choices

variable {base : Scalar} {ws vs kept out : List Json}

/-- Different stored values are all kept, in their order. -/
theorem collect_eq_append (h : List.Forall₂ (fun w v => base.toStorage w = .ok v) ws vs)
    (hd : (kept ++ vs).Pairwise fun a b => a.same b = false) :
    collect base kept ws = .ok (kept ++ vs) := by
  induction h generalizing kept with
  | nil => simp [collect]
  | @cons w v ws vs hw _ ih =>
    have hnew : kept.any (·.same v) = false := by
      rw [List.any_eq_false]
      intro x hx
      rw [(List.pairwise_append.1 hd).2.2 x hx v List.mem_cons_self]
      exact Bool.false_ne_true
    have happend : kept ++ v :: vs = kept ++ [v] ++ vs := by simp
    rw [happend] at hd ⊢
    rw [collect, hw]
    simp only [hnew, Bool.false_eq_true, if_false]
    exact ih hd

/-- Values are kept behind those that are kept already, at most one for each. Where there is one
for each, they are the conversions. -/
theorem collect_eq_ok (h : collect base kept ws = .ok out) :
    ∃ vs, out = kept ++ vs ∧ vs.length ≤ ws.length ∧
      (vs.length = ws.length → List.Forall₂ (fun w v => base.toStorage w = .ok v) ws vs) := by
  induction ws generalizing kept with
  | nil =>
    cases h
    exact ⟨[], by simp, Nat.le_refl _, fun _ => .nil⟩
  | cons w ws ih =>
    rw [collect] at h
    split at h
    · cases h
    next v hv =>
      split at h
      · obtain ⟨vs, rfl, hle, -⟩ := ih h
        refine ⟨vs, rfl, by simp only [List.length_cons]; omega, fun hlen => ?_⟩
        simp only [List.length_cons] at hlen
        omega
      · obtain ⟨vs, rfl, hle, hall⟩ := ih h
        refine ⟨v :: vs, by simp, by simpa using hle, fun hlen => ?_⟩
        exact .cons hv (hall (by simpa using hlen))

/-- Values are collected exactly if each of them converts. -/
theorem exists_collect_iff :
    (∃ out, collect base kept ws = .ok out) ↔ ∀ w ∈ ws, ∃ v, base.toStorage w = .ok v := by
  induction ws generalizing kept with
  | nil => simp [collect]
  | cons w ws ih =>
    rw [collect, List.forall_mem_cons]
    cases hw : base.toStorage w with
    | error e => simp
    | ok v => simp [ih]

/-- The first value is always kept. -/
theorem collect_ne_nil (hne : ws ≠ []) (h : collect base [] ws = .ok out) : out ≠ [] := by
  cases ws with
  | nil => exact absurd rfl hne
  | cons w ws =>
    rw [collect] at h
    split at h
    · cases h
    next v hv =>
      obtain ⟨vs, rfl, -, -⟩ := collect_eq_ok h
      simp

theorem ofWire_eq_ok {c : Choices} :
    ofWire base ws = .ok c ↔ c.base = base ∧ collect base [] ws = .ok c.values := by
  rw [ofWire.eq_def]
  split
  next e he => simp [he]
  next values hvalues =>
    have hcollect : collect base [] ws = .ok c.values ↔ values = c.values := by simp [hvalues]
    rw [hcollect]
    split
    next hempty =>
      have hne : values ≠ c.values := fun h => c.nonempty (h ▸ hempty)
      simp [hne]
    next =>
      obtain ⟨base', values', _, _, _⟩ := c
      simp [eq_comm]

/-- As many values as an enumeration has make it exactly if each converts to the one at its
place. -/
theorem ofWire_eq_ok_self {c : Choices} (hlen : ws.length = c.values.length) :
    ofWire c.base ws = .ok c ↔
      List.Forall₂ (fun w v => c.base.toStorage w = .ok v) ws c.values := by
  rw [ofWire_eq_ok, and_iff_right rfl]
  constructor
  · intro h
    obtain ⟨vs, hvs, -, hall⟩ := collect_eq_ok h
    rw [List.nil_append] at hvs
    rw [hvs] at hlen ⊢
    exact hall hlen.symm
  · intro h
    exact collect_eq_append h c.distinct

theorem exists_ofWire_iff (hne : ws ≠ []) :
    (∃ c, ofWire base ws = .ok c) ↔ ∀ w ∈ ws, ∃ v, base.toStorage w = .ok v := by
  have hcollect : (∃ out, collect base [] ws = .ok out) ↔ _ := exists_collect_iff
  rw [← hcollect]
  constructor
  · intro h
    obtain ⟨c, hc⟩ := h
    exact ⟨c.values, (ofWire_eq_ok.1 hc).2⟩
  · intro h
    obtain ⟨values, hvalues⟩ := h
    have hvne : values ≠ [] := collect_ne_nil hne hvalues
    have hinv := collect_invariant hvalues .nil (by simp)
    exact ⟨⟨base, values, hvne, hinv.1, hinv.2⟩, ofWire_eq_ok.2 ⟨rfl, hvalues⟩⟩

end Choices

/-! ## Values that are shown, printed and read -/

namespace Scalar

variable {s : Scalar} {v x w y : Json}

/-- Kinds other than instants take what is read for a stored value as it is. -/
theorem toStorage_reread (h : s.toStorage v = .ok x) (hs : s ≠ .instant)
    (hy : x.reread? = some y) : s.toStorage y = .ok y := by
  have hx := stores_of_toStorage h
  by_cases hfloat : s = .float
  · subst hfloat
    obtain ⟨a, rfl⟩ := hx
    obtain ⟨b, -, rfl⟩ := Option.map_eq_some_iff.1 hy
    rfl
  · obtain rfl := Stores.reread_eq hx hfloat hy
    exact toStorage_self h hs

/-- An instant is shown as a text, which is read as it is. -/
theorem readBack?_shown (h : s.toStorage v = .ok x) (hw : s.toWire x = .ok w) :
    (s = .instant ∧ x.reread? = some x ∧ w.readBack? = some w) ∨
      (s ≠ .instant ∧ w = x ∧ w.readBack? = x.reread?) := by
  have hx := stores_of_toStorage h
  by_cases hs : s = .instant
  · subst hs
    obtain ⟨us, t, rfl, hus, ht⟩ := hx
    simp only [toWire, instantToWire, Json.int64?_eq_some.2 ⟨rfl, hus⟩, ht] at hw
    cases hw
    exact .inl ⟨rfl, rfl, rfl⟩
  · obtain ⟨w', hw', -, hself⟩ := hx.toWire
    obtain rfl : w = w' := by simpa [hw] using hw'
    obtain rfl := hself hs
    exact .inr ⟨hs, rfl, hx.wellFormed.readBack?_eq⟩

/-- A value that is shown, printed and read is stored as the same value exactly if it is read as it
was written and is no instant outside the years of four digits. -/
theorem toStorage_readBack_iff (h : s.toStorage v = .ok x) (hw : s.toWire x = .ok w)
    (hy : w.readBack? = some y) :
    s.toStorage y = .ok x ↔ x.reread? = some x ∧ ∀ us ∈ s.storedInstants x, InPlainYears us := by
  rcases readBack?_shown h hw with ⟨-, hx, hself⟩ | ⟨hs, rfl, hread⟩
  · obtain rfl : w = y := by simpa [hself] using hy
    rw [toStorage_shown_iff h hw, and_iff_right hx]
  · rw [hread] at hy
    rw [toStorage_reread h hs hy, hy, storedInstants_of_ne hs]
    simp

theorem exists_toStorage_readBack_iff (h : s.toStorage v = .ok x) (hw : s.toWire x = .ok w)
    (hy : w.readBack? = some y) :
    (∃ z, s.toStorage y = .ok z) ↔ ∀ us ∈ s.storedInstants x, InPlainYears us := by
  rcases readBack?_shown h hw with ⟨-, -, hself⟩ | ⟨hs, rfl, hread⟩
  · obtain rfl : w = y := by simpa [hself] using hy
    rw [← toStorage_shown_iff h hw]
    constructor
    · intro hz
      obtain ⟨z, hz⟩ := hz
      rwa [eq_of_toStorage_shown h hw hz] at hz
    · exact fun hx => ⟨x, hx⟩
  · rw [hread] at hy
    exact iff_of_true ⟨y, toStorage_reread h hs hy⟩ (by simp [storedInstants_of_ne hs])

end Scalar

section Pairs

variable {α β : Type} {R : α → β → Prop} {xs : List α} {ys : List β}

theorem forall₂_comp_iff {γ : Type} {S : β → γ → Prop} {zs : List γ} :
    List.Forall₂ (fun x z => ∃ y, R x y ∧ S y z) xs zs ↔
      ∃ ys, List.Forall₂ R xs ys ∧ List.Forall₂ S ys zs := by
  constructor
  · intro h
    induction h with
    | nil => exact ⟨[], .nil, .nil⟩
    | cons hxz _ ih =>
      obtain ⟨y, hR, hS⟩ := hxz
      obtain ⟨ys, hxy, hyz⟩ := ih
      exact ⟨y :: ys, .cons hR hxy, .cons hS hyz⟩
  · intro h
    obtain ⟨ys, hxy, hyz⟩ := h
    induction hxy generalizing zs with
    | nil =>
      cases hyz
      exact .nil
    | cons hR _ ih =>
      cases hyz with
      | cons hS hmore => exact .cons ⟨_, hR, hS⟩ (ih hmore)

theorem forall₂_swap_iff {S : β → α → Prop} {P : α → Prop} (h : List.Forall₂ R xs ys)
    (hP : ∀ x ∈ xs, ∀ y, R x y → (S y x ↔ P x)) : List.Forall₂ S ys xs ↔ ∀ x ∈ xs, P x := by
  induction h with
  | nil => simp
  | cons hR _ ih =>
    rw [List.forall₂_cons, List.forall_mem_cons, hP _ List.mem_cons_self _ hR,
      ih fun x hx => hP x (List.mem_cons_of_mem _ hx)]

theorem forall_mem_right_iff {Q : β → Prop} {P : α → Prop} (h : List.Forall₂ R xs ys)
    (hP : ∀ x ∈ xs, ∀ y, R x y → (Q y ↔ P x)) : (∀ y ∈ ys, Q y) ↔ ∀ x ∈ xs, P x := by
  induction h with
  | nil => simp
  | cons hR _ ih =>
    rw [List.forall_mem_cons, List.forall_mem_cons, hP _ List.mem_cons_self _ hR,
      ih fun x hx => hP x (List.mem_cons_of_mem _ hx)]

end Pairs

theorem Json.readBackItems?_eq_some {xs ys : List Json} :
    readBackItems? xs = some ys ↔ List.Forall₂ (fun x y => x.readBack? = some y) xs ys := by
  induction xs generalizing ys with
  | nil => simp [readBackItems?, eq_comm]
  | cons x xs ih =>
    rw [readBackItems?, List.forall₂_cons_left_iff]
    simp only [Option.bind_eq_some_iff, Option.map_eq_some_iff, ih]
    constructor
    · intro h
      obtain ⟨y, hy, zs, hzs, rfl⟩ := h
      exact ⟨y, zs, hy, hzs, rfl⟩
    · intro h
      obtain ⟨y, zs, hy, hzs, rfl⟩ := h
      exact ⟨y, hy, zs, hzs, rfl⟩

namespace Choices

variable {c : Choices} {ws : List Json}

/-- No instant among the values lies outside the years of four digits. -/
def InPlainYears (c : Choices) : Prop :=
  ∀ v ∈ c.values, ∀ us ∈ c.base.storedInstants v, Moment.InPlainYears us

/-- Every value is read as it was written. -/
def ReadAsWritten (c : Choices) : Prop := ∀ v ∈ c.values, v.reread? = some v

/-- Every value is read as some value. -/
def CanBeRead (c : Choices) : Prop := ∀ v ∈ c.values, ∃ y, v.reread? = some y

theorem forall₂_wireValues (c : Choices) :
    List.Forall₂ (fun v w => c.base.toWire v = .ok w) c.values (FieldType.wireValues c) := by
  rw [FieldType.wireValues, List.forall₂_map_right_iff, List.forall₂_same]
  intro v hv
  obtain ⟨u, hu⟩ := c.stored v hv
  obtain ⟨w, hw, -⟩ := (Scalar.stores_of_toStorage hu).toWire
  rw [hw]

/-- The values that are shown can be read back exactly if the stored ones can. -/
theorem exists_readBackItems?_iff :
    (∃ ws, Json.readBackItems? (FieldType.wireValues c) = some ws) ↔ c.CanBeRead := by
  have hshown : (∀ w ∈ FieldType.wireValues c, ∃ y, w.readBack? = some y) ↔ c.CanBeRead := by
    refine forall_mem_right_iff (forall₂_wireValues c) fun v hv w hw => ?_
    obtain ⟨u, hu⟩ := c.stored v hv
    rcases Scalar.readBack?_shown hu hw with ⟨-, hx, hself⟩ | ⟨-, rfl, hread⟩
    · rw [hself, hx]
      simp
    · rw [hread]
  rw [← hshown]
  constructor
  · intro h w hw
    obtain ⟨ws, hws⟩ := h
    obtain ⟨y, -, hy⟩ := exists_of_mem_left (Json.readBackItems?_eq_some.1 hws) hw
    exact ⟨y, hy⟩
  · intro h
    obtain ⟨ws, hws⟩ := exists_forall₂ h
    exact ⟨ws, Json.readBackItems?_eq_some.2 hws⟩

/-- Each value with what is read for the value that is shown. -/
theorem forall₂_shown_read (h : Json.readBackItems? (FieldType.wireValues c) = some ws) :
    List.Forall₂ (fun v y => ∃ w, c.base.toWire v = .ok w ∧ w.readBack? = some y) c.values ws :=
  forall₂_comp_iff.2 ⟨_, forall₂_wireValues c, Json.readBackItems?_eq_some.1 h⟩

/-- The values that an enumeration shows make the same enumeration again exactly if all are read as
they were written and no instant among them lies outside the years of four digits. -/
theorem ofWire_shown_iff (h : Json.readBackItems? (FieldType.wireValues c) = some ws) :
    ofWire c.base ws = .ok c ↔ c.ReadAsWritten ∧ c.InPlainYears := by
  have hpairs := forall₂_shown_read h
  rw [ofWire_eq_ok_self hpairs.length_eq.symm, ReadAsWritten, InPlainYears, ← forall₂_and]
  refine forall₂_swap_iff hpairs fun v hv y hy => ?_
  obtain ⟨u, hu⟩ := c.stored v hv
  obtain ⟨w, hw, hy⟩ := hy
  exact Scalar.toStorage_readBack_iff hu hw hy

theorem exists_ofWire_shown_iff (h : Json.readBackItems? (FieldType.wireValues c) = some ws) :
    (∃ c', ofWire c.base ws = .ok c') ↔ c.InPlainYears := by
  have hpairs := forall₂_shown_read h
  have hne : ws ≠ [] := by
    rw [← List.length_pos_iff, ← hpairs.length_eq, List.length_pos_iff]
    exact c.nonempty
  rw [exists_ofWire_iff hne]
  refine forall_mem_right_iff hpairs fun v hv y hy => ?_
  obtain ⟨u, hu⟩ := c.stored v hv
  obtain ⟨w, hw, hy⟩ := hy
  exact Scalar.exists_toStorage_readBack_iff hu hw hy

end Choices

end Backlog
