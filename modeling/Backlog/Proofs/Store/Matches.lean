import Backlog.Proofs.Filter.Simple
import Backlog.Proofs.Store.ItemCauses

/-!
# Lists with a filter in its simple form

A list matches a live item if its statement goes through and selects the row of the item. One row at
which the statement fails takes the matches from all of them.

**Main statement (`simple_conjunction`).** The filter of an object is the conjunction of its
members: a list with it matches a live item exactly if the lists with each member alone do. It
matches all live items if there is no member, and no more of them if there is one more.

**Matched and shown.** An item that is matched is in the list, provided that all items that are
matched can be shown (`listed_iff`). What can be shown does not depend on the filter.

**NUL in a name.** Such a field can be looked at in no row. Where it is looked at, the whole list
fails, so that no item is matched, and alone it is looked at in every row.
-/

namespace Backlog.Store

open Backlog.Filter (Finds IsFieldName ofMembers)

variable {s : Store} {r : ItemRow} {f : Filter} {p : Predicate} {params : List Datum}

/-- A list with the filter matches the item of the row. -/
def Matches (f : Filter) (s : Store) (r : ItemRow) : Prop :=
  ∃ p params rows, f.toPredicate [] = (.ok p, params) ∧
    selected p params (liveItems s) = .ok rows ∧ r ∈ rows

/-- The rows that a list with the filter selects, where its statement goes through. -/
def matched? (f : Filter) (s : Store) : Option (List ItemRow) :=
  match f.toPredicate [] with
  | (.ok p, params) => (selected p params (liveItems s)).toOption
  | (.error _, _) => none

instance : Decidable (Matches f s r) :=
  decidable_of_iff (∃ rows ∈ matched? f s, r ∈ rows) <| by
    unfold matched? Matches
    rcases f.toPredicate [] with ⟨e | p, params⟩
    · simp
    · cases hrows : selected p params (liveItems s) <;> simp [Except.toOption, hrows]

/-! ## Selected rows -/

theorem mem_selected {rows kept : List ItemRow} (h : selected p params rows = .ok kept) :
    r ∈ kept ↔ r ∈ rows ∧ selects p params r = .ok true := by
  induction rows generalizing kept with
  | nil =>
    cases h
    simp
  | cons q rows ih =>
    obtain ⟨keep, hkeep, h⟩ := bind_eq_ok.1 h
    obtain ⟨others, hothers, h⟩ := bind_eq_ok.1 h
    cases h
    rw [List.mem_cons, or_and_right, ← ih hothers]
    cases keep with
    | false =>
      refine (or_iff_right ?_).symm
      rintro ⟨rfl, hselects⟩
      cases hkeep.symm.trans hselects
    | true =>
      show r ∈ q :: others ↔ _
      rw [List.mem_cons]
      refine or_congr_left (iff_self_and.2 ?_)
      rintro rfl
      exact hkeep

/-- The row has a field that equals the value, and the field can be looked at. -/
def HasMember (r : ItemRow) (name : String) (v : Json) : Prop :=
  Finds (Stored.lookAt r.fieldsText) name v

theorem selects_ofMembers {ms : Record Json}
    (hcompiled : (ofMembers ms).toPredicate [] = (.ok p, params)) :
    selects p params r = .ok true ↔ ∀ name v, ms.find? name = some v → HasMember r name v := by
  rw [selects, mapError_eq_ok]
  exact Filter.settles_ofMembers hcompiled

/-- What was found in one row can be looked for in all rows. -/
theorem HasMember.not_holdsNul {name : String} {v : Json} (h : HasMember r name v) :
    ¬ HoldsNul name := by
  intro hnul
  obtain ⟨d, hlook, -⟩ := h
  have hfault : ∃ m, Stored.pathFault? (.text (Filter.pathText name)) = some m := by
    rw [Stored.pathFault?, Stored.fieldOfPath?_pathText]
    have hany : name.toList.any (·.toNat = 0) = true := by simpa [HoldsNul] using hnul
    exact ⟨_, if_pos hany⟩
  obtain ⟨m, hm⟩ := hfault
  rw [Stored.lookAt, hm] at hlook
  cases hlook

/-! ## Matches, member by member -/

/-- What one member asks of a row. -/
structure Fulfils (r : ItemRow) (name : String) (v : Json) : Prop where
  named : IsFieldName name
  flat : v.Flat
  found : HasMember r name v

/-- **An object is matched member by member.** -/
theorem matches_ofMembers_iff {ms : Record Json} (hms : ms.WellFormed) (hr : r ∈ liveItems s) :
    Matches (ofMembers ms) s r ↔ ∀ name v, ms.find? name = some v → Fulfils r name v := by
  apply Iff.intro
  · rintro ⟨p, params, rows, hcompiled, hrows, hmem⟩ name v hv
    obtain ⟨hname, hflat⟩ :=
      (Filter.toPredicate_ofMembers_iff hms []).1 ⟨p, params, hcompiled⟩ name v hv
    exact ⟨hname, hflat, (selects_ofMembers hcompiled).1 ((mem_selected hrows).1 hmem).2 name v hv⟩
  · intro h
    obtain ⟨p, params, hcompiled⟩ := (Filter.toPredicate_ofMembers_iff hms []).2
      fun name v hv => ⟨(h name v hv).named, (h name v hv).flat⟩
    -- No row fails, since no name holds a NUL.
    obtain ⟨rows, hrows⟩ : ∃ rows, selected p params (liveItems s) = .ok rows := by
      refine exists_selected fun q _ => by_contra fun hfails => ?_
      obtain ⟨name, hname, hnul⟩ := exists_holdsNul hcompiled hfails
      obtain ⟨v, hv⟩ := Filter.mem_fields_ofMembers.1 hname
      exact (h name v hv).found.not_holdsNul hnul
    refine ⟨p, params, rows, hcompiled, hrows, (mem_selected hrows).2 ⟨hr, ?_⟩⟩
    exact (selects_ofMembers hcompiled).2 fun name v hv => (h name v hv).found

/-- The object of one member. -/
def single (name : String) (v : Json) : Record Json := Record.empty.insert name v

theorem matches_single_iff {name : String} {v : Json} (hv : v.WellFormed) (hr : r ∈ liveItems s) :
    Matches (ofMembers (single name v)) s r ↔ Fulfils r name v := by
  have hsingle : (single name v).WellFormed := Record.wellFormed_empty.insert name hv
  rw [matches_ofMembers_iff hsingle hr]
  simp [single, Record.find?_insert]

/-! ## Matched and shown -/

/-- The list of all that a filter selects holds the item. -/
def Listed (f : Filter) (s : Store) (r : ItemRow) : Prop :=
  ∃ ws total, (listItems f none none).runOn s = (.ok (ws, total), s) ∧
    ∃ w ∈ ws, w.id = idText r.id

/-- A list holds an item that is matched, where all that is matched can be shown. -/
theorem listed_iff (hs : Numbered s) (hr : r ∈ liveItems s) :
    Listed f s r ↔ Matches f s r ∧
      ∀ q ∈ liveItems s, Matches f s q → ∃ w, showListed s q = .ok w := by
  apply Iff.intro
  · rintro ⟨ws, total, hlist, w, hw, hid⟩
    obtain ⟨-, p, params, rows, hcompiled, hrows, -, -, -, hshown⟩ := listItems_runOn_eq_ok.1 hlist
    rw [cut_none] at hshown
    obtain ⟨q, hq, hshow⟩ := exists_of_mem_right hshown hw
    have hlive := ((mem_selected hrows).1 hq).1
    have hsame : q.id = r.id := idText_injective ((id_of_showListed hshow).symm.trans hid)
    obtain rfl := hs.eq_of_id (mem_liveItems.1 hlive).1 (mem_liveItems.1 hr).1 hsame
    refine ⟨⟨p, params, rows, hcompiled, hrows, hq⟩, fun q _ hmatch => ?_⟩
    obtain ⟨_, _, rows', hcompiled', hrows', hq'⟩ := hmatch
    cases hcompiled.symm.trans hcompiled'
    cases hrows.symm.trans hrows'
    obtain ⟨w, -, hshow⟩ := exists_of_mem_left hshown hq'
    exact ⟨w, hshow⟩
  · rintro ⟨⟨p, params, rows, hcompiled, hrows, hmem⟩, hshow⟩
    obtain ⟨ws, hshown⟩ : ∃ ws, ShownAs s rows ws := exists_forall₂ fun q hq =>
      hshow q (selected_subset hrows hq) ⟨p, params, rows, hcompiled, hrows, hq⟩
    obtain ⟨w, hw, hrow⟩ := exists_of_mem_left hshown hmem
    exact ⟨ws, rows.length, (listItems_eq_ok_iff hcompiled hrows).2 ⟨rfl, hshown⟩, w, hw,
      id_of_showListed hrow⟩

/-- **A filter in its simple form is the conjunction of its members.** Exactly the texts of objects
give a filter. It compiles exactly if the names of the members can stand in a path and no value is a
list or an object, and then a list with it matches a live item exactly if the list with each member
alone does. The list holds what is matched, where all of that can be shown. -/
theorem simple_conjunction (hreach : Reachable s) :
    (∀ text e, Filter.ofText text = .error e → ∃ m, e = .badParameter "filter" m) ∧
    (∀ text f, Filter.ofText text = .ok f ↔
      ∃ ms, Json.parse text = .ok (.ofRecord ms) ∧ f = ofMembers ms) ∧
    (∀ text ms, Json.parse text = .ok (.ofRecord ms) →
      (∀ before, (∃ p after, (ofMembers ms).toPredicate before = (.ok p, after)) ↔
        ∀ name v, ms.find? name = some v → (name ≠ "" ∧ '"' ∉ name.toList) ∧ v.Flat) ∧
      ∀ r ∈ liveItems s,
        (Matches (ofMembers ms) s r ↔
          ∀ name v, ms.find? name = some v → Matches (ofMembers (single name v)) s r) ∧
        ∀ name v, ms.find? name = none → v.WellFormed →
          Matches (ofMembers (ms.insert name v)) s r → Matches (ofMembers ms) s r) ∧
    ∀ r ∈ liveItems s, Matches (ofMembers .empty) s r ∧
      ∀ f, Listed f s r ↔ Matches f s r ∧
        ∀ q ∈ liveItems s, Matches f s q → ∃ w, showListed s q = .ok w := by
  obtain ⟨ops, rfl⟩ := hreach
  have hs : Numbered (run ops empty).2 := numbered_empty.run ops
  refine ⟨fun _ _ => Filter.ofText_eq_error, fun _ _ => Filter.ofText_eq_ok,
    fun text ms hparse => ?_, fun r hr => ⟨?_, fun f => listed_iff hs hr⟩⟩
  · have hms : ms.WellFormed := Record.wellFormed_ofRecord.1 (Json.wellFormed_of_parse hparse)
    refine ⟨Filter.toPredicate_ofMembers_iff hms, fun r hr => ⟨?_, ?_⟩⟩
    · rw [matches_ofMembers_iff hms hr]
      exact forall₃_congr fun name v hv => (matches_single_iff (hms name v hv) hr).symm
    · intro name v hnew hv hmatch
      rw [matches_ofMembers_iff (hms.insert name hv) hr] at hmatch
      rw [matches_ofMembers_iff hms hr]
      intro other w hw
      have hother : name ≠ other := by
        rintro rfl
        cases hnew.symm.trans hw
      exact hmatch other w (by rw [Record.find?_insert, if_neg hother, hw])
  · rw [matches_ofMembers_iff Record.wellFormed_empty hr]
    intro name v hv
    cases hv

/-- The second item of the sample, which is live. -/
def secondRow : ItemRow where
  id := 2
  typeName := "u"
  version := 0
  fieldsText := "\x7b\"n\":5,\"system.creator\":\"u\"\x7d"
  deleted := false
  created := 0
  updated := 0

/-- A number that the item has, and a field that it does not have. -/
def twoMembers : Record Json := .ofList [("gone", .null), ("n", .int 5)]

/-- Both members match the second of four live items, and the list of both holds it. -/
theorem simple_conjunction_twoMembers :
    Filter.ofText "\x7b\"n\": 5, \"gone\": null\x7d" = .ok (ofMembers twoMembers) ∧
    secondRow ∈ liveItems (run mixedRun empty).2 ∧
    Listed (ofMembers twoMembers) (run mixedRun empty).2 secondRow := by
  have hparse : Json.parse "\x7b\"n\": 5, \"gone\": null\x7d" = .ok (.ofRecord twoMembers) := by
    decide +kernel
  obtain ⟨hlive, hgone, hn, hshown⟩ : secondRow ∈ liveItems (run mixedRun empty).2 ∧
      Matches (ofMembers (single "gone" .null)) (run mixedRun empty).2 secondRow ∧
      Matches (ofMembers (single "n" (.int 5))) (run mixedRun empty).2 secondRow ∧
      ∀ q ∈ liveItems (run mixedRun empty).2,
        (showListed (run mixedRun empty).2 q).toBool = true := by
    decide +kernel
  obtain ⟨-, htexts, hobjects, hlisted⟩ := simple_conjunction (s := (run mixedRun empty).2) ⟨_, rfl⟩
  refine ⟨(htexts _ _).2 ⟨_, hparse, rfl⟩, hlive, ((hlisted _ hlive).2 _).2 ⟨?_, ?_⟩⟩
  · refine (((hobjects _ _ hparse).2 _ hlive).1).2 fun name v hv => ?_
    rw [twoMembers, Record.find?_ofList] at hv
    obtain h | h : (name, v) = ("gone", .null) ∨ (name, v) = ("n", .int 5) := by
      simpa [or_comm] using Record.mem_of_lookup hv
    · cases h
      exact hgone
    · cases h
      exact hn
  · intro q hq _
    have hq := hshown q hq
    cases hshow : showListed (run mixedRun empty).2 q with
    | error e =>
      rw [hshow] at hq
      cases hq
    | ok w => exact ⟨w, rfl⟩

end Backlog.Store
