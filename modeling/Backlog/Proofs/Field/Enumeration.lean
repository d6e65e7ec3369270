import Backlog.Proofs.Field.Same
import Mathlib.Data.List.Induction
import Mathlib.Logic.Relation

/-!
# What an enumeration accepts

An enumeration is declared by values in wire shape, of which many can be spellings of one value:
an identifier with blanks around it, an instant in another offset, a zero with a sign. All that is
decided about it is decided after conversion, by the sameness of stored values.

**Main statement (`FieldType.enumOf_decides`).** Values declare an enumeration exactly if the kind
is scalar, there are any, and all of them convert. The enumeration then keeps the first of each
(`Json.firsts`) and accepts what is the same as one of them, on the wire and in storage
(`Choices.Enumerates`). Another spelling of a value, behind it, changes nothing
(`Choices.AddsRepeat`).

**Sameness** is compared through `Json.unsigned` (`Json.same_iff`): for values without depth, which
are all that a scalar kind stores, it is an equivalence.
-/

namespace Backlog

/-! ## First occurrences -/

namespace Json

variable {v : Json} {vs : List Json}

/-- The values that are not the same as one before them. -/
def firsts (vs : List Json) : List Json :=
  (vs.zipIdx.filter fun e => !(vs.take e.2).any (·.same e.1)).map Prod.fst

theorem firsts_concat (vs : List Json) (v : Json) :
    firsts (vs ++ [v]) = if vs.any (·.same v) then firsts vs else firsts vs ++ [v] := by
  have hbefore : (vs.zipIdx.filter fun e => !((vs ++ [v]).take e.2).any (·.same e.1)) =
      vs.zipIdx.filter fun e => !(vs.take e.2).any (·.same e.1) := by
    refine List.filter_congr fun e he => ?_
    have hlt : e.2 < vs.length := by simpa using List.snd_lt_of_mem_zipIdx he
    rw [List.take_append_of_le_length (Nat.le_of_lt hlt)]
  rw [firsts, List.zipIdx_append, List.filter_append, List.map_append, hbefore]
  by_cases h : vs.any (·.same v) = true <;> simp [firsts, h]

theorem same_trans {u w : Json} (hw : w.depth = 0) (hv : v.depth = 0) (huw : u.same w = true)
    (hwv : w.same v = true) : u.same v = true := by
  rw [same_iff hw] at huw
  rw [same_iff hv] at hwv ⊢
  exact huw.trans hwv

/-- A value is the same as one of the values exactly if it is the same as one of the first. -/
theorem any_firsts (hvs : ∀ w ∈ vs, w.depth = 0) (hv : v.depth = 0) :
    (firsts vs).any (·.same v) = vs.any (·.same v) := by
  induction vs using List.reverseRecOn with
  | nil => rfl
  | append_singleton vs u ih =>
    have ih := ih fun w hw => hvs w (List.mem_append_left _ hw)
    have hu : u.depth = 0 := hvs u (List.mem_append_right _ List.mem_cons_self)
    rw [firsts_concat]
    split
    next hany =>
      rw [ih, List.any_append, List.any_cons, List.any_nil, Bool.or_false]
      by_cases huv : u.same v = true
      · obtain ⟨w, hw, hwu⟩ := List.any_eq_true.1 hany
        rw [huv, Bool.or_true, List.any_eq_true]
        exact ⟨w, hw, same_trans hu hv hwu huv⟩
      · rw [Bool.eq_false_iff.2 huv, Bool.or_false]
    · rw [List.any_append, List.any_append, ih]

theorem str_same {t : String} : (str t).same v = true ↔ v = str t := by
  rw [@eq_comm _ v]
  cases v <;> simp [same]

theorem int_same {n : Int} : (int n).same v = true ↔ v = int n := by
  rw [@eq_comm _ v]
  cases v <;> simp [same]

end Json

/-- What is the same as a stored value is one too. -/
theorem Scalar.Stores.of_same {s : Scalar} {x y : Json} (h : s.Stores y)
    (hsame : y.same x = true) : s.Stores x := by
  cases s with
  | string | user | url | workItem =>
    obtain ⟨t, rfl⟩ := h
    exact ⟨t, Json.str_same.1 hsame⟩
  | integer | duration =>
    obtain ⟨n, rfl, hn⟩ := h
    exact ⟨n, Json.int_same.1 hsame, hn⟩
  | float =>
    obtain ⟨b, rfl⟩ := h
    cases x with
    | float a => exact ⟨a, rfl⟩
    | _ => cases hsame
  | instant =>
    obtain ⟨us, t, rfl, hus, ht⟩ := h
    exact ⟨us, t, Json.int_same.1 hsame, hus, ht⟩

/-! ## Declared values -/

namespace Choices

variable {base : Scalar} {ws ws' vs done out : List Json} {w x : Json}

theorem depth_of_forall₂ (h : List.Forall₂ (fun w v => base.toStorage w = .ok v) ws vs) :
    ∀ v ∈ vs, v.depth = 0 := by
  intro v hv
  obtain ⟨w, -, hw⟩ := exists_of_mem_right h hv
  exact (Scalar.depth_of_toStorage hw).2

/-- Behind values of which the first have been kept, the first of all are kept. -/
theorem collect_firsts (h : List.Forall₂ (fun w v => base.toStorage w = .ok v) ws vs)
    (hdone : ∀ v ∈ done, v.depth = 0) :
    collect base (Json.firsts done) ws = .ok (Json.firsts (done ++ vs)) := by
  induction h generalizing done with
  | nil => rw [collect, List.append_nil]
  | @cons w v ws vs hw _ ih =>
    have hv : v.depth = 0 := (Scalar.depth_of_toStorage hw).2
    have hmore : ∀ u ∈ done ++ [v], u.depth = 0 := by
      simpa [or_imp, forall_and, hv] using hdone
    rw [collect, hw]
    simp only [Json.any_firsts hdone hv, ← Json.firsts_concat]
    rw [ih hmore, List.append_assoc, List.singleton_append]

theorem collect_eq_ok_iff : collect base [] ws = .ok out ↔
    ∃ vs, List.Forall₂ (fun w v => base.toStorage w = .ok v) ws vs ∧ out = Json.firsts vs := by
  have hcollect {vs : List Json} (h : List.Forall₂ (fun w v => base.toStorage w = .ok v) ws vs) :
      collect base [] ws = .ok (Json.firsts vs) :=
    collect_firsts h (List.forall_mem_nil fun v : Json => v.depth = 0)
  apply Iff.intro
  · intro h
    obtain ⟨vs, hvs⟩ := exists_forall₂ (exists_collect_iff.1 ⟨out, h⟩)
    exact ⟨vs, hvs, Except.ok.inj (h.symm.trans (hcollect hvs))⟩
  · intro h
    obtain ⟨vs, hvs, rfl⟩ := h
    exact hcollect hvs

theorem collect_append (kept as bs : List Json) :
    collect base kept (as ++ bs) =
      (collect base kept as >>= fun kept' => collect base kept' bs) := by
  induction as generalizing kept with
  | nil => rfl
  | cons a as ih =>
    rw [List.cons_append, collect, collect]
    cases base.toStorage a with
    | error e => rfl
    | ok v => exact ih _

/-- The enumeration that values declare: what it keeps, and what it accepts on the wire and in
storage. -/
structure Enumerates (c : Choices) (ws : List Json) : Prop where
  kept : ∃ vs, List.Forall₂ (fun w v => c.base.toStorage w = .ok v) ws vs ∧
    c.values = Json.firsts vs
  distinct : c.values.Pairwise fun a b => a.same b = false
  shown : ∀ v ∈ c.values, ∃ w, c.base.toWire v = .ok w
  accepts : ∀ v x, v ≠ .null → ((FieldType.enum c).toStorage v = .ok x ↔
    c.base.toStorage v = .ok x ∧ ∃ w ∈ ws, ∃ y, c.base.toStorage w = .ok y ∧ y.same x = true)
  holds : ∀ x, x ≠ .null →
    ((∃ w, (FieldType.enum c).toWire x = .ok w) ↔ ∃ v ∈ c.values, v.same x = true)

theorem stores_of_mem {c : Choices} {v : Json} (hv : v ∈ c.values) : c.base.Stores v := by
  obtain ⟨w, hw⟩ := c.stored v hv
  exact Scalar.stores_of_toStorage hw

/-- A stored value is allowed exactly if a declared value converts to the same. -/
theorem allows_iff {c : Choices} (h : ofWire base ws = .ok c) (hx : x.depth = 0) :
    c.allows x = true ↔ ∃ w ∈ ws, ∃ y, base.toStorage w = .ok y ∧ y.same x = true := by
  obtain ⟨-, hvalues⟩ := ofWire_eq_ok.1 h
  obtain ⟨vs, hvs, hfirsts⟩ := collect_eq_ok_iff.1 hvalues
  rw [allows, hfirsts, Json.any_firsts (depth_of_forall₂ hvs) hx, List.any_eq_true]
  apply Iff.intro
  · intro hany
    obtain ⟨y, hy, hsame⟩ := hany
    obtain ⟨w, hw, hwy⟩ := exists_of_mem_right hvs hy
    exact ⟨w, hw, y, hwy, hsame⟩
  · intro hany
    obtain ⟨w, hw, y, hwy, hsame⟩ := hany
    obtain ⟨y', hy', hwy'⟩ := exists_of_mem_left hvs hw
    obtain rfl : y = y' := Except.ok.inj (hwy.symm.trans hwy')
    exact ⟨y, hy', hsame⟩

theorem exists_toWire_iff {c : Choices} :
    (∃ w, c.toWire x = .ok w) ↔ ∃ v ∈ c.values, v.same x = true := by
  simp only [toWire_eq_ok, exists_and_left]
  rw [allows, List.any_eq_true, and_iff_left_iff_imp]
  intro hany
  obtain ⟨v, hv, hsame⟩ := hany
  obtain ⟨w, hw, -⟩ := ((stores_of_mem hv).of_same hsame).toWire
  exact ⟨w, hw⟩

theorem enumerates_of_ofWire {c : Choices} (h : ofWire base ws = .ok c) : c.Enumerates ws := by
  obtain ⟨rfl, hvalues⟩ := ofWire_eq_ok.1 h
  refine ⟨collect_eq_ok_iff.1 hvalues, c.distinct, fun v hv => ?_, fun v x hv => ?_, fun x hx => ?_⟩
  · obtain ⟨w, hw, -⟩ := (stores_of_mem hv).toWire
    exact ⟨w, hw⟩
  · rw [FieldType.toStorage_of_ne_null hv]
    show c.toStorage v = .ok x ↔ _
    rw [toStorage_eq_ok]
    exact and_congr_right fun hvx => allows_iff h (Scalar.depth_of_toStorage hvx).2
  · rw [FieldType.toWire_of_ne_null hx]
    exact exists_toWire_iff

/-- Somewhere behind a value, another spelling of it is added. -/
inductive AddsRepeat (base : Scalar) : List Json → List Json → Prop
  | intro {before after : List Json} {u w x y : Json} (earlier : u ∈ before)
    (kept : base.toStorage u = .ok y) (again : base.toStorage w = .ok x) (same : y.same x = true) :
    AddsRepeat base (before ++ after) (before ++ w :: after)

theorem AddsRepeat.collect_eq (h : AddsRepeat base ws ws')
    (hws : collect base [] ws = .ok out) : collect base [] ws' = .ok out := by
  cases h with
  | @intro before after u w x y earlier kept again same =>
    rw [collect_append, bind_eq_ok] at hws ⊢
    obtain ⟨found, hfound, hafter⟩ := hws
    refine ⟨found, hfound, ?_⟩
    obtain ⟨vs, hvs, rfl⟩ := collect_eq_ok_iff.1 hfound
    obtain ⟨y', hy', hu⟩ := exists_of_mem_left hvs earlier
    obtain rfl : y = y' := Except.ok.inj (kept.symm.trans hu)
    have hany : (Json.firsts vs).any (·.same x) = true := by
      rw [Json.any_firsts (depth_of_forall₂ hvs) (Scalar.depth_of_toStorage again).2]
      exact List.any_eq_true.2 ⟨y, hy', same⟩
    rw [collect, again]
    simpa only [hany, if_true] using hafter

theorem ofWire_of_repeats {c : Choices} (h : Relation.ReflTransGen (AddsRepeat base) ws ws')
    (hws : ofWire base ws = .ok c) : ofWire base ws' = .ok c := by
  rw [ofWire_eq_ok] at hws ⊢
  refine ⟨hws.1, ?_⟩
  induction h with
  | refl => exact hws.2
  | tail _ hstep ih => exact hstep.collect_eq ih

end Choices

/-! ## Types -/

namespace FieldType

variable {k : Kind} {ws : List Json} {t : FieldType}

theorem simple_eq_ok {s : Scalar} : simple k = .ok s ↔ k = .scalar s := by
  cases k <;> simp [simple]

theorem enumOf_eq_ok : enumOf k ws = .ok t ↔
    ∃ s c, k = .scalar s ∧ Choices.ofWire s ws = .ok c ∧ t = .enum c := by
  rw [enumOf.eq_def]
  cases k with
  | scalar s =>
    simp only [simple, map_eq_ok]
    apply Iff.intro
    · intro h
      obtain ⟨c, hc, rfl⟩ := h
      exact ⟨s, c, rfl, hc, rfl⟩
    · intro h
      obtain ⟨_, c, ⟨⟩, hc, rfl⟩ := h
      exact ⟨c, hc, rfl⟩
  | enum | list => simp [simple]

theorem exists_enumOf_iff : (∃ t, enumOf k ws = .ok t) ↔
    ∃ s, k = .scalar s ∧ ws ≠ [] ∧ ∀ w ∈ ws, ∃ v, s.toStorage w = .ok v := by
  simp only [enumOf_eq_ok]
  apply Iff.intro
  · intro h
    obtain ⟨t, s, c, hk, hc, -⟩ := h
    have hne : ws ≠ [] := by
      intro hnil
      subst hnil
      exact c.nonempty (Except.ok.inj (Choices.ofWire_eq_ok.1 hc).2).symm
    exact ⟨s, hk, hne, (Choices.exists_ofWire_iff hne).1 ⟨c, hc⟩⟩
  · intro h
    obtain ⟨s, hk, hne, hall⟩ := h
    obtain ⟨c, hc⟩ := (Choices.exists_ofWire_iff hne).2 hall
    exact ⟨.enum c, s, c, hk, hc, rfl⟩

/-- **What declares an enumeration, and what it accepts.** Values declare one exactly if the kind is
scalar, there are any, and all of them convert. What it keeps and what it accepts is decided by the
conversions of the values, and other spellings of a value that stands before them change nothing. -/
theorem enumOf_decides (k : Kind) (ws : List Json) :
    ((∃ t, enumOf k ws = .ok t) ↔
        ∃ s, k = .scalar s ∧ ws ≠ [] ∧ ∀ w ∈ ws, ∃ v, s.toStorage w = .ok v) ∧
      ∀ t, enumOf k ws = .ok t →
        ∃ c, t = .enum c ∧ k = .scalar c.base ∧ c.Enumerates ws ∧
          ∀ ws', Relation.ReflTransGen (Choices.AddsRepeat c.base) ws ws' →
            enumOf k ws' = .ok t := by
  refine ⟨exists_enumOf_iff, fun t ht => ?_⟩
  obtain ⟨s, c, rfl, hc, rfl⟩ := enumOf_eq_ok.1 ht
  obtain rfl : c.base = s := (Choices.ofWire_eq_ok.1 hc).1
  refine ⟨c, rfl, rfl, Choices.enumerates_of_ofWire hc, fun ws' hws' => ?_⟩
  exact enumOf_eq_ok.2 ⟨_, c, rfl, Choices.ofWire_of_repeats hws' hc, rfl⟩

/-- The identifier `7` is declared as a number, then as a text with blanks around it: one value is
kept, and it is the same enumeration. -/
theorem enumOf_decides_spellings :
    ∃ c, enumOf (.scalar .workItem) [.int 7] = .ok (.enum c) ∧ c.values = [.str "7"] ∧
      enumOf (.scalar .workItem) [.int 7, .str " 7 "] = .ok (.enum c) := by
  have hstored : Scalar.workItem.toStorage (.int 7) = .ok (.str "7") := by rfl
  have hagain : Scalar.workItem.toStorage (.str " 7 ") = .ok (.str "7") := by rfl
  have hdecides := enumOf_decides (.scalar .workItem) [.int 7]
  obtain ⟨t, ht⟩ := hdecides.1.2 ⟨.workItem, rfl, by simp, by simp [hstored]⟩
  obtain ⟨c, rfl, hbase, henum, hrepeats⟩ := hdecides.2 t ht
  obtain hbase : Scalar.workItem = c.base := Kind.scalar.inj hbase
  refine ⟨c, ht, ?_, hrepeats _ (.single ?_)⟩
  · obtain ⟨vs, hvs, hvalues⟩ := henum.kept
    rw [← hbase, List.forall₂_cons_left_iff] at hvs
    obtain ⟨v, rest, hv, hrest, rfl⟩ := hvs
    obtain rfl := List.forall₂_nil_left_iff.1 hrest
    obtain rfl : Json.str "7" = v := Except.ok.inj (hstored.symm.trans hv)
    exact hvalues
  · rw [← hbase]
    exact @Choices.AddsRepeat.intro _ [.int 7] [] _ _ _ _ List.mem_cons_self hstored hagain rfl

end FieldType

end Backlog
