import Backlog.Json.Parser
import Backlog.Proofs.Field.Stored

/-!
# What is read is well formed

**Main statement (`wellFormed_of_parse`).** Every value that is read from a text is well formed: its
integers have 64 bits, with a sign or without one, and the members of its objects stand in the order
of their names, each name once.

**Integers.** Digits are only added to a significand while it fits (`wholeDigits_lt`), and a number
that is negative and too great for 64 bits with a sign is read as a floating number.
-/

namespace Backlog.Json

/-- Whatever is read has the property. -/
def Gives {α : Type} (read : Reader α) (P : α → Prop) : Prop :=
  ∀ cs x rest, read cs = .ok (x, rest) → P x

/-! ## Numbers -/

/-- The digits that are kept fit 64 bits. -/
theorem wholeDigits_lt {m : Nat} (h : m < 18446744073709551616) (dropped : Nat) (cs : List Char) :
    (wholeDigits m dropped cs).1 < 18446744073709551616 := by
  induction cs generalizing m dropped with
  | nil => exact h
  | cons c cs ih =>
    rw [wholeDigits]
    split
    · dsimp only
      split
      next hfits =>
        rw [Bool.and_eq_true] at hfits
        exact ih (of_decide_eq_true hfits.2) 0
      next => exact ih h (dropped + 1)
    · exact h

theorem wellFormed_of_floatOf {negative : Bool} {m : Nat} {e : Int} {v : Json}
    (h : floatOf negative m e = .ok v) : v.WellFormed := by
  rw [floatOf] at h
  split at h
  · cases h
    trivial
  · cases h

theorem gives_exponentPart (negative : Bool) (m : Nat) (start : Int) :
    Gives (exponentPart negative m start) WellFormed := by
  intro cs v rest h
  rw [exponentPart.eq_def] at h
  split at h
  split at h
  · cases h
  · split at h
    · cases h
    · split at h
      · obtain ⟨_, hfloat, ⟨⟩⟩ := bind_eq_ok.1 h
        exact wellFormed_of_floatOf hfloat
      · split at h
        · cases h
        · cases h
          trivial

/-- Behind a significand that fits, an integer is read only where 64 bits have it. -/
theorem gives_afterWhole (negative : Bool) {m : Nat} (hm : m < 18446744073709551616)
    (dropped : Nat) : Gives (afterWhole negative m dropped) WellFormed := by
  have hfloat {rest : List Char} {m : Nat} {e : Int} {negative : Bool} {v : Json}
      {after : List Char}
      (h : (do return (← floatOf negative m e, rest) : Except Fault (Json × List Char)) =
        .ok (v, after)) : v.WellFormed := by
    obtain ⟨_, hfloat, ⟨⟩⟩ := bind_eq_ok.1 h
    exact wellFormed_of_floatOf hfloat
  intro cs v rest h
  rw [afterWhole.eq_def] at h
  split at h
  · -- A point, with or without an exponent behind it.
    dsimp only at h
    split at h
    · split at h <;> cases h
    · split at h
      · exact gives_exponentPart _ _ _ _ _ _ h
      · exact gives_exponentPart _ _ _ _ _ _ h
      · exact hfloat h
  · exact gives_exponentPart _ _ _ _ _ _ h
  · exact gives_exponentPart _ _ _ _ _ _ h
  · split at h
    · exact hfloat h
    · split at h
      · cases h
        exact ⟨by omega, by omega⟩
      · split at h
        · exact hfloat h
        next hsmall =>
          cases h
          exact ⟨by omega, by omega⟩

theorem gives_number (negative : Bool) : Gives (number negative) WellFormed := by
  intro cs v rest h
  have hzero : 0 < 18446744073709551616 := by decide
  rw [number.eq_def] at h
  split at h
  · cases h
  · split at h
    · cases h
    · exact gives_afterWhole negative hzero 0 _ _ _ h
  next c cs _ =>
    split at h
    · exact gives_afterWhole negative (wholeDigits_lt hzero 0 (c :: cs)) _ _ _ _ h
    · cases h

/-! ## Lists and objects -/

section Parts

variable {α : Type} {read : Reader α} {P : α → Prop}

theorem gives_items (hread : Gives read P) : Gives (items read) (∀ x ∈ ·, P x) := by
  have hfrom (n : Nat) : ∀ first, Gives (itemsFrom read n first) (∀ x ∈ ·, P x) := by
    induction n with
    | zero =>
      intro first cs xs rest h
      cases h
    | succ n ih =>
      intro first cs xs rest h
      rw [itemsFrom] at h
      obtain ⟨⟨more, start⟩, -, h⟩ := bind_eq_ok.1 h
      dsimp only at h
      split at h
      · obtain ⟨⟨x, middle⟩, hx, h⟩ := bind_eq_ok.1 h
        obtain ⟨⟨ys, _⟩, hys, ⟨⟩⟩ := bind_eq_ok.1 h
        exact List.forall_mem_cons.2 ⟨hread _ _ _ hx, ih false _ _ _ hys⟩
      · obtain ⟨_, -, ⟨⟩⟩ := bind_eq_ok.1 h
        exact List.forall_mem_nil _
  exact fun cs => hfrom (cs.length + 1) true cs

theorem gives_members (hread : Gives read P) : Gives (members read) (∀ m ∈ ·, P m.2) := by
  have hfrom (n : Nat) : ∀ first, Gives (membersFrom read n first) (∀ m ∈ ·, P m.2) := by
    induction n with
    | zero =>
      intro first cs ms rest h
      cases h
    | succ n ih =>
      intro first cs ms rest h
      rw [membersFrom] at h
      obtain ⟨⟨more, start⟩, -, h⟩ := bind_eq_ok.1 h
      dsimp only at h
      split at h
      · obtain ⟨⟨key, _⟩, -, h⟩ := bind_eq_ok.1 h
        obtain ⟨_, -, h⟩ := bind_eq_ok.1 h
        obtain ⟨⟨x, middle⟩, hx, h⟩ := bind_eq_ok.1 h
        obtain ⟨⟨ns, _⟩, hns, ⟨⟩⟩ := bind_eq_ok.1 h
        exact List.forall_mem_cons.2 ⟨hread _ _ _ hx, ih false _ _ _ hns⟩
      · obtain ⟨_, -, ⟨⟩⟩ := bind_eq_ok.1 h
        exact List.forall_mem_nil _
  exact fun cs => hfrom (cs.length + 1) true cs

end Parts

/-! ## Values -/

theorem wellFormed_ofList {ms : List (String × Json)} (h : ∀ m ∈ ms, m.2.WellFormed) :
    (ofRecord (Record.ofList ms)).WellFormed := by
  rw [Record.wellFormed_ofRecord]
  intro name v hv
  rw [Record.find?_ofList] at hv
  exact h (name, v) (List.mem_reverse.1 (Record.mem_of_lookup hv))

theorem gives_valueOf {list : Reader (List Json)} {object : Reader (List (String × Json))}
    (hlist : Gives list (∀ x ∈ ·, x.WellFormed))
    (hobject : Gives object (∀ m ∈ ·, m.2.WellFormed)) :
    Gives (valueOf list object) WellFormed := by
  intro cs v rest h
  rw [valueOf] at h
  split at h
  · cases h
  · obtain ⟨_, -, ⟨⟩⟩ := bind_eq_ok.1 h
    trivial
  · obtain ⟨_, -, ⟨⟩⟩ := bind_eq_ok.1 h
    trivial
  · obtain ⟨_, -, ⟨⟩⟩ := bind_eq_ok.1 h
    trivial
  · exact gives_number true _ _ _ h
  · obtain ⟨_, -, ⟨⟩⟩ := bind_eq_ok.1 h
    trivial
  · obtain ⟨⟨xs, _⟩, hxs, ⟨⟩⟩ := bind_eq_ok.1 h
    exact wellFormedItems_iff.2 (hlist _ _ _ hxs)
  · obtain ⟨⟨ms, _⟩, hms, ⟨⟩⟩ := bind_eq_ok.1 h
    exact wellFormed_ofList (hobject _ _ _ hms)
  · split at h
    · exact gives_number false _ _ _ h
    · cases h

theorem gives_value (depth : Nat) : Gives (value depth) WellFormed := by
  induction depth with
  | zero => exact gives_valueOf (fun _ _ _ h => by cases h) (fun _ _ _ h => by cases h)
  | succ depth ih => exact gives_valueOf (gives_items ih) (gives_members ih)

/-- **What is read from a text is well formed.** -/
theorem wellFormed_of_parse {s : String} {v : Json} (h : parse s = .ok v) : v.WellFormed := by
  obtain ⟨⟨w, rest⟩, hvalue, h⟩ := bind_eq_ok.1 h
  obtain ⟨_, -, ⟨⟩⟩ := bind_eq_ok.1 h
  exact gives_value depthLimit _ _ _ hvalue

end Backlog.Json
