import Backlog.Proofs.Field.Stored

/-!
# Shown records that come back

What a row keeps is printed and read again before it is shown, and only floating numbers can be
other ones then.

**Main statement (`FieldSet.Keeps.shown_reread_iff`).** A record is shown after that as it was
before exactly if it has come back as it was, and whether it has can be told from what is shown.
-/

namespace Backlog

/-! ## Values that come back -/

namespace Json

theorem rereadItems?_eq_some {xs ys : List Json} :
    rereadItems? xs = some ys ↔ List.Forall₂ (fun x y => x.reread? = some y) xs ys := by
  induction xs generalizing ys with
  | nil => simp [rereadItems?, eq_comm]
  | cons x xs ih =>
    simp only [rereadItems?, Option.bind_eq_some_iff, Option.map_eq_some_iff, ih,
      List.forall₂_cons_left_iff]
    constructor
    · rintro ⟨y, hy, ys, hys, rfl⟩
      exact ⟨y, ys, hy, hys, rfl⟩
    · rintro ⟨y, ys, hy, hys, rfl⟩
      exact ⟨y, hy, ys, hys, rfl⟩

theorem rereadMembers?_eq_self {ms : List (String × Json)} :
    rereadMembers? ms = some ms ↔ ∀ m ∈ ms, m.2.reread? = some m.2 := by
  induction ms with
  | nil => simp [rereadMembers?]
  | cons m ms ih =>
    obtain ⟨k, x⟩ := m
    simp only [rereadMembers?, Option.bind_eq_some_iff, Option.map_eq_some_iff, List.cons.injEq,
      Prod.mk.injEq, true_and, List.forall_mem_cons, ← ih]
    constructor
    · rintro ⟨_, hx, _, hms, rfl, rfl⟩
      exact ⟨hx, hms⟩
    · rintro ⟨hx, hms⟩
      exact ⟨x, hx, ms, hms, rfl, rfl⟩

end Json

theorem Record.rereads_self_iff {r : Record Json} :
    r.Rereads r ↔ ∀ name v, r.find? name = some v → v.reread? = some v := by
  rw [Rereads, Json.rereadMembers?_eq_self]
  constructor
  · intro h name v hv
    exact h (name, v) (mem_entries_iff.2 hv)
  · rintro h ⟨name, v⟩ hv
    exact h name v (mem_entries_iff.1 hv)

/-! ## Values of fields -/

/-- A scalar that has been read back is shown as before exactly if it has come back, which what is
shown tells. -/
theorem Scalar.Stores.shown_reread_iff {s : Scalar} {x y w : Json} (h : s.Stores x)
    (hw : s.toWire x = .ok w) :
    x.reread? = some y ∧ s.toWire y = .ok w ↔ y = x ∧ w.reread? = some w := by
  cases s with
  | string | user | url | workItem | integer | duration =>
    obtain ⟨w', hw', -, hsame⟩ := h.toWire
    obtain rfl : w' = w := by simpa [hw'] using hw
    obtain rfl : w' = x := hsame (by simp)
    constructor
    · rintro ⟨hy, -⟩
      have hyx := h.reread_eq (by simp) hy
      exact ⟨hyx, hyx ▸ hy⟩
    · rintro ⟨rfl, hy⟩
      exact ⟨hy, hw⟩
  | float =>
    obtain ⟨a, rfl⟩ := h
    cases hw
    constructor
    · rintro ⟨hy, hshown⟩
      obtain ⟨b, -, rfl⟩ := Option.map_eq_some_iff.1 hy
      cases hshown
      exact ⟨rfl, hy⟩
    · rintro ⟨rfl, hy⟩
      exact ⟨hy, rfl⟩
  | instant =>
    -- Numbers and texts come back, so nothing is asked on either side.
    obtain ⟨us, t, rfl, hus, ht⟩ := h
    obtain rfl : .str t.microText = w := by
      simpa [Scalar.toWire, instantToWire, Json.int64?_eq_some.2 ⟨rfl, hus⟩, ht] using hw
    simp only [Json.reread?, Option.some.injEq, and_true, eq_comm (a := y)]
    exact and_iff_left_of_imp fun hy => hy ▸ hw

/-- A scalar that has been read back is shown as what was shown is read back. -/
theorem Scalar.Stores.reread_shown {s : Scalar} {x y v w : Json} (h : s.Stores x)
    (hw : s.toWire x = .ok w) (hy : x.reread? = some y) (hv : s.toWire y = .ok v) :
    w.reread? = some v := by
  by_cases hs : s = .float
  · subst hs
    obtain ⟨a, rfl⟩ := h
    obtain ⟨b, hb, rfl⟩ := Option.map_eq_some_iff.1 hy
    cases hw
    cases hv
    exact hy
  · obtain rfl := h.reread_eq hs hy
    obtain rfl := Except.ok.inj (hw.symm.trans hv)
    exact ((h.shown_reread_iff hw).1 ⟨hy, hw⟩).2

theorem Scalar.shown_rereadItems_iff {s : Scalar} {xs ys ws : List Json}
    (h : ∀ x ∈ xs, s.Stores x) (hws : List.Forall₂ (fun x w => s.toWire x = .ok w) xs ws) :
    Json.rereadItems? xs = some ys ∧ List.Forall₂ (fun y w => s.toWire y = .ok w) ys ws ↔
      ys = xs ∧ Json.rereadItems? ws = some ws := by
  simp only [Json.rereadItems?_eq_some]
  induction hws generalizing ys with
  | nil => simp
  | @cons x w xs ws hw _ ih =>
    obtain ⟨hx, hxs⟩ := List.forall_mem_cons.1 h
    simp only [List.forall₂_cons_left_iff, List.forall₂_cons_right_iff]
    constructor
    · rintro ⟨⟨y, ys, hy, hys, rfl⟩, ⟨_, _, hshown, hrest, heq⟩⟩
      obtain ⟨rfl, rfl⟩ := List.cons.inj heq
      obtain ⟨rfl, hback⟩ := (hx.shown_reread_iff hw).1 ⟨hy, hshown⟩
      obtain ⟨rfl, hbacks⟩ := (ih hxs).1 ⟨hys, hrest⟩
      exact ⟨rfl, w, ws, hback, hbacks, rfl⟩
    · rintro ⟨rfl, _, _, hback, hbacks, heq⟩
      obtain ⟨rfl, rfl⟩ := List.cons.inj heq
      obtain ⟨hy, hshown⟩ := (hx.shown_reread_iff hw).2 ⟨rfl, hback⟩
      obtain ⟨hys, hrest⟩ := (ih hxs).2 ⟨rfl, hbacks⟩
      exact ⟨⟨x, xs, hy, hys, rfl⟩, ⟨x, xs, hshown, hrest, rfl⟩⟩

theorem Scalar.rereadItems_shown {s : Scalar} {xs ys vs ws : List Json}
    (h : ∀ x ∈ xs, s.Stores x) (hws : List.Forall₂ (fun x w => s.toWire x = .ok w) xs ws)
    (hys : Json.rereadItems? xs = some ys)
    (hvs : List.Forall₂ (fun y v => s.toWire y = .ok v) ys vs) :
    Json.rereadItems? ws = some vs := by
  rw [Json.rereadItems?_eq_some] at hys ⊢
  induction hws generalizing ys vs with
  | nil =>
    cases hys
    cases hvs
    exact .nil
  | cons hw _ ih =>
    obtain ⟨hx, hxs⟩ := List.forall_mem_cons.1 h
    obtain ⟨y, _, hy, hyrest, rfl⟩ := List.forall₂_cons_left_iff.1 hys
    obtain ⟨v, _, hv, hvrest, rfl⟩ := List.forall₂_cons_left_iff.1 hvs
    exact .cons (hx.reread_shown hw hy hv) (ih hxs hyrest hvrest)

theorem FieldType.Stores.shown_reread_iff {t : FieldType} {x y w : Json} (h : t.Stores x)
    (hw : t.toWire x = .ok w) :
    x.reread? = some y ∧ t.toWire y = .ok w ↔ y = x ∧ w.reread? = some w := by
  rw [toWire_of_ne_null h.ne_null] at hw
  cases t with
  | scalar s =>
    have hne (hy : x.reread? = some y) : y ≠ .null := (Scalar.Stores.reread h hy).ne_null
    rw [← Scalar.Stores.shown_reread_iff h hw]
    exact and_congr_right fun hy => by rw [toWire_of_ne_null (hne hy)]
  | enum c =>
    have hne (hy : x.reread? = some y) : y ≠ .null := (Scalar.Stores.reread h.1 hy).ne_null
    obtain ⟨hallows, hw⟩ := Choices.toWire_eq_ok.1 hw
    rw [← Scalar.Stores.shown_reread_iff h.1 hw]
    constructor
    · rintro ⟨hy, hshown⟩
      rw [toWire_of_ne_null (hne hy)] at hshown
      exact ⟨hy, (Choices.toWire_eq_ok.1 hshown).2⟩
    · rintro ⟨hy, hshown⟩
      rw [toWire_of_ne_null (hne hy)]
      refine ⟨hy, Choices.toWire_eq_ok.2 ⟨?_, hshown⟩⟩
      rw [((Scalar.Stores.shown_reread_iff h.1 hw).1 ⟨hy, hshown⟩).1]
      exact hallows
  | list s =>
    obtain ⟨xs, rfl, hxs⟩ := h
    obtain ⟨_, ws, heq, rfl, hws⟩ := convertList_eq_ok.1 hw
    cases heq
    have hitems {ys : List Json} : Json.rereadItems? xs = some ys ∧
        List.Forall₂ (fun y w => s.toWire y = .ok w) ys ws ↔
          ys = xs ∧ Json.rereadItems? ws = some ws := Scalar.shown_rereadItems_iff hxs hws
    simp only [Json.reread?, Option.map_eq_some_iff]
    constructor
    · rintro ⟨⟨ys, hys, rfl⟩, hshown⟩
      rw [toWire_of_ne_null (by simp)] at hshown
      obtain ⟨_, _, heq, heq', hshown⟩ := convertList_eq_ok.1 hshown
      cases heq
      cases heq'
      obtain ⟨rfl, hback⟩ := hitems.1 ⟨hys, hshown⟩
      exact ⟨rfl, ws, hback, rfl⟩
    · rintro ⟨rfl, _, hback, heq⟩
      cases heq
      obtain ⟨hys, hshown⟩ := hitems.2 ⟨rfl, hback⟩
      refine ⟨⟨xs, hys, rfl⟩, ?_⟩
      rw [toWire_of_ne_null (by simp)]
      exact convertList_eq_ok.2 ⟨xs, ws, rfl, rfl, hshown⟩

theorem FieldType.Stores.reread_shown {t : FieldType} {x y v w : Json} (h : t.Stores x)
    (hw : t.toWire x = .ok w) (hy : x.reread? = some y) (hyne : y ≠ .null)
    (hv : t.toWire y = .ok v) : w.reread? = some v := by
  rw [toWire_of_ne_null h.ne_null] at hw
  rw [toWire_of_ne_null hyne] at hv
  cases t with
  | scalar s => exact Scalar.Stores.reread_shown h hw hy hv
  | enum c =>
    exact Scalar.Stores.reread_shown h.1 (Choices.toWire_eq_ok.1 hw).2 hy
      (Choices.toWire_eq_ok.1 hv).2
  | list s =>
    obtain ⟨xs, rfl, hxs⟩ := h
    obtain ⟨ys, hys, rfl⟩ := Option.map_eq_some_iff.1 hy
    obtain ⟨_, ws, heq, rfl, hws⟩ := convertList_eq_ok.1 hw
    cases heq
    obtain ⟨_, vs, heq, rfl, hvs⟩ := convertList_eq_ok.1 hv
    cases heq
    exact Option.map_eq_some_iff.2 ⟨vs, Scalar.rereadItems_shown hxs hws hys hvs, rfl⟩

/-! ## Records -/

namespace FieldSet

variable {fs : FieldSet} {stored held shown found : Record Json} {name : String}
  {d : FieldDefinition}

/-- A declared field is shown if it is there. -/
theorem Keeps.exists_shown (h : fs.Keeps stored) (hshown : fs.toWire stored = .ok shown)
    (hd : fs.find? name = some d) {x : Json} (hx : stored.find? name = some x) :
    d.type.Stores x ∧ ∃ w, d.type.toWire x = .ok w ∧ shown.find? name = some w := by
  have hstores := h name d hd
  have hname := convert_eq_ok.1 hshown name
  rw [hx] at hstores
  simp only [hd, hx] at hname
  obtain ⟨v, hv, hfind⟩ := hname
  obtain ⟨w, hw, hne⟩ := FieldType.Stores.toWire hstores
  rcases FieldDefinition.convert_eq_ok.1 hv with ⟨hnull, -⟩ | ⟨u, hu, -, hconvert⟩
  · simp [hstores.ne_null] at hnull
  · obtain rfl := Option.some.inj hu
    obtain rfl : w = v := Except.ok.inj (hw.symm.trans hconvert)
    rw [Json.isNull_eq_false.2 hne] at hfind
    exact ⟨hstores, w, hw, hfind⟩

theorem find?_toWire_of_undeclared (hwire : fs.toWire held = .ok shown)
    (hd : fs.find? name = none) : shown.find? name = held.find? name := by
  simpa only [hd] using convert_eq_ok.1 hwire name

/-- A declared field that is not there is not shown. -/
theorem find?_shown_eq_none (hwire : fs.toWire held = .ok shown) (hd : fs.find? name = some d)
    (hx : held.find? name = none) : shown.find? name = none := by
  have hname := convert_eq_ok.1 hwire name
  simp only [hd, hx] at hname
  obtain ⟨v, hv, hfind⟩ := hname
  rcases FieldDefinition.convert_eq_ok.1 hv with ⟨-, -, rfl⟩ | ⟨_, habsent, -⟩
  · exact hfind
  · cases habsent

/-- What is shown in a declared field has been converted from there. -/
theorem toWire_of_shown (hwire : fs.toWire held = .ok shown) (hd : fs.find? name = some d)
    {y w : Json} (hy : held.find? name = some y) (hw : shown.find? name = some w) :
    d.type.toWire y = .ok w := by
  have hname := convert_eq_ok.1 hwire name
  simp only [hd, hy] at hname
  obtain ⟨v, hv, hfind⟩ := hname
  rw [hw] at hfind
  rcases FieldDefinition.convert_eq_ok.1 hv with ⟨-, -, rfl⟩ | ⟨u, hu, -, hconvert⟩
  · cases hfind
  · obtain rfl := Option.some.inj hu
    split at hfind
    · cases hfind
    · rw [Option.some.inj hfind]
      exact hconvert

/-- A kept record that has been read back is shown as before exactly if it has come back, which what
is shown tells. -/
theorem Keeps.shown_reread_iff (h : fs.Keeps stored) (hshown : fs.toWire stored = .ok shown) :
    stored.Rereads held ∧ fs.toWire held = .ok shown ↔ held = stored ∧ shown.Rereads shown := by
  simp only [Record.rereads_self_iff]
  constructor
  · rintro ⟨hread, hwire⟩
    have hsame (name : String) : held.find? name = stored.find? name ∧
        ∀ w, shown.find? name = some w → w.reread? = some w := by
      cases hd : fs.find? name with
      | none =>
        have hheld := find?_toWire_of_undeclared hwire hd
        refine ⟨hheld.symm.trans (find?_toWire_of_undeclared hshown hd), fun w hw => ?_⟩
        have hback := hread.find? name
        rwa [← hheld, ← find?_toWire_of_undeclared hshown hd, hw, Option.bind_some,
          eq_comm] at hback
      | some d =>
        cases hx : stored.find? name with
        | none =>
          refine ⟨by rw [hread.find?, hx, Option.bind_none], fun w hw => ?_⟩
          rw [find?_shown_eq_none hshown hd hx] at hw
          cases hw
        | some x =>
          obtain ⟨hstores, w, hw, hfind⟩ := h.exists_shown hshown hd hx
          obtain ⟨y, hy, hheld⟩ := hread.exists_reread hx
          obtain ⟨rfl, hback⟩ :=
            (hstores.shown_reread_iff hw).1 ⟨hy, toWire_of_shown hwire hd hheld hfind⟩
          refine ⟨hheld, fun w' hw' => ?_⟩
          rwa [← Option.some.inj (hfind.symm.trans hw')]
    exact ⟨Record.ext_find? fun name => (hsame name).1, fun name => (hsame name).2⟩
  · rintro ⟨rfl, hback⟩
    refine ⟨Record.rereads_self_iff.2 fun name v hv => ?_, hshown⟩
    cases hd : fs.find? name with
    | none => exact hback name v ((find?_toWire_of_undeclared hshown hd).trans hv)
    | some d =>
      obtain ⟨hstores, w, hw, hfind⟩ := h.exists_shown hshown hd hv
      exact ((hstores.shown_reread_iff hw).2 ⟨rfl, hback name w hfind⟩).1

/-- In every field, a kept record that has been read back shows what was shown there, read back. -/
theorem Keeps.find?_reread_shown (h : fs.Keeps stored) (hshown : fs.toWire stored = .ok shown)
    (hread : stored.Rereads held) (hfound : fs.toWire held = .ok found) (name : String) :
    found.find? name = (shown.find? name).bind Json.reread? := by
  cases hd : fs.find? name with
  | none =>
    rw [find?_toWire_of_undeclared hfound hd, find?_toWire_of_undeclared hshown hd, hread.find?]
  | some d =>
    cases hx : stored.find? name with
    | none =>
      have hnone : held.find? name = none := by rw [hread.find?, hx, Option.bind_none]
      rw [find?_shown_eq_none hfound hd hnone, find?_shown_eq_none hshown hd hx, Option.bind_none]
    | some x =>
      have hkeeps : fs.Keeps held := h.reread hread ((h.toWire_reread_iff hread).1 ⟨found, hfound⟩)
      obtain ⟨y, hy, hheld⟩ := hread.exists_reread hx
      obtain ⟨hstores, w, hw, hwfound⟩ := h.exists_shown hshown hd hx
      obtain ⟨hystores, v, hv, hvfound⟩ := hkeeps.exists_shown hfound hd hheld
      rw [hvfound, hwfound, Option.bind_some, hstores.reread_shown hw hy hystores.ne_null hv]

end FieldSet

end Backlog
