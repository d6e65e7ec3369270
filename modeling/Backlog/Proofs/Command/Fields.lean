import Backlog.Command.Fields
import Backlog.Proofs.Json.WellRead
import Mathlib.Data.List.Induction
import Mathlib.Data.List.TakeWhile

/-!
# The values that a command line gives

Fields are given values by an object and by assignments behind it.

**Main statements.** `FieldArguments.exists_read_iff`: the arguments are read exactly if no
assignment among them is malformed and the object is one. `FieldArguments.find?_of_read`: what is
read for a name is what was given last for it (`FieldArguments.Gives`). `find?_applyTo`: a value
other than `null` is put under its name, and `null` takes the name away.
-/

namespace Backlog.FieldArguments

variable {a : FieldArguments} {text name : String} {texts : List String} {v u : Json}
  {r values fields : Record Json}

/-! ## One assignment -/

/-- The value that a text means: itself as JSON where it is JSON, and otherwise the text. -/
def Means (text : String) (v : Json) : Prop :=
  Json.parse text = .ok v ∨ (∀ u, Json.parse text ≠ .ok u) ∧ v = .str text

/-- An assignment has a name before its first equals sign, and a value behind it. -/
inductive Assigns : String → String → Json → Prop
  | intro {key value : List Char} {v : Json} (first : '=' ∉ key)
    (named : Text.trim (String.ofList key) ≠ "") (means : Means (String.ofList value) v) :
    Assigns (String.ofList (key ++ '=' :: value)) (Text.trim (String.ofList key)) v

theorem means_iff : Means text v ↔ v = valueOf text := by
  rw [Means, valueOf]
  cases Json.parse text with
  | ok w => simp [eq_comm]
  | error f => simp

theorem eq_append_of_dropWhile {cs value : List Char} {c : Char}
    (h : cs.dropWhile (· ≠ '=') = c :: value) : cs = cs.takeWhile (· ≠ '=') ++ '=' :: value := by
  have hc : c = '=' := by
    have hhead := List.head?_dropWhile_not (· ≠ '=') cs
    rw [h] at hhead
    simpa using hhead
  calc cs = cs.takeWhile (· ≠ '=') ++ cs.dropWhile (· ≠ '=') :=
        List.takeWhile_append_dropWhile.symm
    _ = cs.takeWhile (· ≠ '=') ++ '=' :: value := by rw [h, hc]

theorem readAssignment_eq_ok : readAssignment text = .ok (name, v) ↔ Assigns text name v := by
  rw [readAssignment.eq_def]
  apply Iff.intro
  · intro h
    split at h
    · cases h
    next c value hrest =>
      simp only at h
      split at h
      · cases h
      next hnamed =>
        obtain ⟨rfl, rfl⟩ := Prod.mk.inj (Except.ok.inj h)
        have htext : text = String.ofList (text.toList.takeWhile (· ≠ '=') ++ '=' :: value) := by
          rw [← eq_append_of_dropWhile hrest, String.ofList_toList]
        have hfirst : '=' ∉ text.toList.takeWhile (· ≠ '=') := by
          intro hmem
          simpa using List.mem_takeWhile_imp hmem
        have hmeans : Means (String.ofList value) (valueOf (String.ofList value)) :=
          means_iff.2 rfl
        have hassigns := Assigns.intro hfirst (by simpa using hnamed) hmeans
        rwa [← htext] at hassigns
  · intro h
    obtain ⟨first, named, means⟩ := h
    next key value =>
      have hkey : ∀ c ∈ key, (decide (c ≠ '=')) = true := by
        intro c hc
        simpa using ne_of_mem_of_not_mem hc first
      rw [String.toList_ofList, List.dropWhile_append_of_pos hkey,
        List.takeWhile_append_of_pos hkey]
      simp [named, means_iff.1 means]

theorem Assigns.unique (h : Assigns text name v) (h' : Assigns text name u) : u = v := by
  have hsame := (readAssignment_eq_ok.2 h).symm.trans (readAssignment_eq_ok.2 h')
  exact (Prod.mk.inj (Except.ok.inj hsame)).2.symm

/-! ## All assignments -/

/-- None of the assignments has the name. -/
def Unassigned (texts : List String) (name : String) : Prop :=
  ∀ text ∈ texts, ∀ v, ¬ Assigns text name v

/-- The last of the assignments that have the name gives it the value. -/
def AssignsLast (texts : List String) (name : String) (v : Json) : Prop :=
  ∃ before text after, texts = before ++ text :: after ∧ Assigns text name v ∧
    Unassigned after name

theorem not_assignsLast_nil : ¬ AssignsLast [] name v := by
  intro h
  obtain ⟨before, text, after, hnil, -⟩ := h
  simp at hnil

theorem unassigned_cons :
    Unassigned (text :: texts) name ↔ (∀ v, ¬ Assigns text name v) ∧ Unassigned texts name :=
  List.forall_mem_cons

theorem assignsLast_cons : AssignsLast (text :: texts) name v ↔
    AssignsLast texts name v ∨ Assigns text name v ∧ Unassigned texts name := by
  apply Iff.intro
  · intro h
    obtain ⟨before, last, after, hall, hassigns, hlast⟩ := h
    cases before with
    | nil =>
      cases hall
      exact .inr ⟨hassigns, hlast⟩
    | cons first before =>
      cases hall
      exact .inl ⟨before, last, after, rfl, hassigns, hlast⟩
  · intro h
    rcases h with ⟨before, last, after, rfl, hassigns, hlast⟩ | ⟨hassigns, hlast⟩
    · exact ⟨text :: before, last, after, rfl, hassigns, hlast⟩
    · exact ⟨[], text, texts, rfl, hassigns, hlast⟩

/-- Either a name is not assigned, or one of its assignments is the last. -/
theorem exists_assignsLast_iff : (∃ v, AssignsLast texts name v) ↔ ¬ Unassigned texts name := by
  induction texts with
  | nil => simp [not_assignsLast_nil, Unassigned]
  | cons text texts ih =>
    simp only [assignsLast_cons, exists_or, ih, exists_and_right, unassigned_cons]
    by_cases hrest : Unassigned texts name <;> simp [hrest]

/-- Assigned values are put over those of a record, the last one of a name over the others. -/
theorem find?_insertAll {assigned : List (String × Json)}
    (h : List.Forall₂ (fun text e => readAssignment text = .ok e) texts assigned) :
    (insertAll r assigned).find? name = some v ↔
      AssignsLast texts name v ∨ r.find? name = some v ∧ Unassigned texts name := by
  induction h generalizing r with
  | nil => simp [insertAll, not_assignsLast_nil, Unassigned]
  | @cons text e texts assigned he _ ih =>
    have hassigns : Assigns text e.1 e.2 := readAssignment_eq_ok.1 he
    have hinsert : insertAll r (e :: assigned) = insertAll (r.insert e.1 e.2) assigned := rfl
    rw [hinsert, ih, Record.find?_insert, assignsLast_cons, unassigned_cons]
    by_cases hname : e.1 = name
    · subst hname
      have hvalue : Assigns text e.1 v ↔ e.2 = v :=
        ⟨fun h => h.unique hassigns, fun h => h ▸ hassigns⟩
      have hnamed : ¬ ∀ v, ¬ Assigns text e.1 v := fun h => h e.2 hassigns
      simp [hvalue, hnamed]
    · have hother : ∀ v, ¬ Assigns text name v := by
        intro v h
        have hsame := he.symm.trans (readAssignment_eq_ok.2 h)
        exact hname (Prod.mk.inj (Except.ok.inj hsame)).1
      simp [hname, hother]

/-! ## All arguments -/

/-- The object of the arguments has the members of a record. -/
inductive GivesObject : Option String → Record Json → Prop
  | none : GivesObject none .empty
  | some {text : String} {v : Json} {r : Record Json} (parsed : Json.parse text = .ok v)
    (members : v.record? = some r) : GivesObject (some text) r

theorem readObject_eq_ok {object : Option String} :
    readObject object = .ok r ↔ GivesObject object r := by
  rw [readObject.eq_def]
  apply Iff.intro
  · intro h
    split at h
    · cases h
      exact .none
    · split at h
      · cases h
      next v hv =>
        split at h
        next r' hr =>
          cases h
          exact .some hv hr
        · cases h
  · intro h
    cases h with
    | none => rfl
    | some parsed members => simp [parsed, members]

/-- The value that is given last for a name: by an assignment, or else by the object. -/
inductive Gives (a : FieldArguments) (name : String) (v : Json) : Prop
  | assigned (assigns : AssignsLast a.assignments name v)
  | member {r : Record Json} (object : GivesObject a.object r) (found : r.find? name = some v)
    (unassigned : Unassigned a.assignments name)

/-- The name stands in the object or in an assignment. -/
def Names (a : FieldArguments) (name : String) : Prop :=
  (∃ r, GivesObject a.object r ∧ name ∈ r.names) ∨
    ∃ text ∈ a.assignments, ∃ v, Assigns text name v

/-- An assignment has no equals sign or no name, or the object is none. -/
def Malformed (a : FieldArguments) : Prop :=
  (∃ text ∈ a.assignments, ∀ name v, ¬ Assigns text name v) ∨ ∀ r, ¬ GivesObject a.object r

theorem exists_gives_iff : (∃ v, a.Gives name v) ↔ a.Names name := by
  have hassigned : (∃ text ∈ a.assignments, ∃ v, Assigns text name v) ↔
      ¬ Unassigned a.assignments name := by
    simp [Unassigned]
  rw [Names, hassigned]
  apply Iff.intro
  · intro h
    obtain ⟨v, hv⟩ := h
    cases hv with
    | assigned assigns => exact .inr (exists_assignsLast_iff.1 ⟨v, assigns⟩)
    | member object found => exact .inl ⟨_, object, Record.mem_names_iff.2 (by simp [found])⟩
  · intro h
    by_cases hnone : Unassigned a.assignments name
    · obtain ⟨r, hobject, hr⟩ := h.resolve_right (not_not_intro hnone)
      obtain ⟨v, hv⟩ := Option.isSome_iff_exists.1 (Record.mem_names_iff.1 hr)
      exact ⟨v, .member hobject hv hnone⟩
    · obtain ⟨v, hv⟩ := exists_assignsLast_iff.2 hnone
      exact ⟨v, .assigned hv⟩

theorem read_eq_ok : a.read = .ok values ↔ ∃ r assigned, GivesObject a.object r ∧
    List.Forall₂ (fun text e => readAssignment text = .ok e) a.assignments assigned ∧
      values = insertAll r assigned := by
  simp only [read, bind_eq_ok, readObject_eq_ok, mapM_eq_ok, pure, Except.pure, Except.ok.injEq]
  apply Iff.intro
  · intro h
    obtain ⟨r, hr, assigned, hassigned, rfl⟩ := h
    exact ⟨r, assigned, hr, hassigned, rfl⟩
  · intro h
    obtain ⟨r, assigned, hr, hassigned, rfl⟩ := h
    exact ⟨r, hr, assigned, hassigned, rfl⟩

theorem exists_read_iff : (∃ values, a.read = .ok values) ↔ ¬ a.Malformed := by
  simp only [read_eq_ok, Malformed, not_or, not_exists, not_forall, not_and, not_not]
  apply Iff.intro
  · intro h
    obtain ⟨values, r, assigned, hr, hassigned, -⟩ := h
    refine ⟨fun text htext => ?_, r, hr⟩
    obtain ⟨e, -, he⟩ := exists_of_mem_left hassigned htext
    exact ⟨e.1, e.2, readAssignment_eq_ok.1 he⟩
  · intro h
    obtain ⟨hall, r, hr⟩ := h
    have hread : ∀ text ∈ a.assignments, ∃ e, readAssignment text = .ok e := by
      intro text htext
      obtain ⟨name, v, hassigns⟩ := hall text htext
      exact ⟨(name, v), readAssignment_eq_ok.2 hassigns⟩
    obtain ⟨assigned, hassigned⟩ := exists_forall₂ hread
    exact ⟨_, r, assigned, hr, hassigned, rfl⟩

/-- What is read for a name is what was given last for it. -/
theorem find?_of_read (h : a.read = .ok values) :
    values.find? name = some v ↔ a.Gives name v := by
  obtain ⟨r, assigned, hr, hassigned, rfl⟩ := read_eq_ok.1 h
  rw [find?_insertAll hassigned]
  apply Iff.intro
  · intro h
    rcases h with hassigns | ⟨hfound, hnone⟩
    · exact .assigned hassigns
    · exact .member hr hfound hnone
  · intro h
    cases h with
    | assigned assigns => exact .inl assigns
    | member object found unassigned =>
      have hsame := (readObject_eq_ok.2 hr).symm.trans (readObject_eq_ok.2 object)
      exact .inr ⟨Except.ok.inj hsame ▸ found, unassigned⟩

theorem not_names_iff (h : a.read = .ok values) :
    ¬ a.Names name ↔ values.find? name = none := by
  rw [← exists_gives_iff, not_exists, Option.eq_none_iff_forall_ne_some]
  exact forall_congr' fun v => not_congr (find?_of_read h).symm

/-! ## Well-formed values -/

theorem Means.wellFormed (h : Means text v) : v.WellFormed := by
  rcases h with hparsed | ⟨-, rfl⟩
  · exact Json.wellFormed_of_parse hparsed
  · trivial

theorem GivesObject.wellFormed {object : Option String} (h : GivesObject object r) :
    r.WellFormed := by
  cases h with
  | none => exact Record.wellFormed_empty
  | some parsed members =>
    have hobject := Json.wellFormed_of_parse parsed
    next v =>
      cases v with
      | obj ms =>
        cases members
        have hms := Json.wellFormedMembers_iff.1 hobject.2
        exact Record.wellFormed_ofRecord.1 (Json.wellFormed_ofList hms)
      | _ => cases members

theorem Gives.wellFormed (h : a.Gives name v) : v.WellFormed := by
  cases h with
  | assigned assigns =>
    obtain ⟨_, _, _, -, ⟨-, -, means⟩, -⟩ := assigns
    exact means.wellFormed
  | member object found _ => exact object.wellFormed name v found

theorem wellFormed_of_read (h : a.read = .ok values) : values.WellFormed := fun _ _ hv =>
  ((find?_of_read h).1 hv).wellFormed

/-! ## Changed fields -/

/-- The induction is on the values that are set, from any fields: the last one of a name stays. -/
theorem find?_foldl_set (es : List (String × Json)) :
    (es.foldl (fun r e => if e.2.isNull then r.erase e.1 else r.insert e.1 e.2) fields).find? name =
      match Record.lookup name es.reverse with
      | none => fields.find? name
      | some v => if v.isNull then none else some v := by
  induction es using List.reverseRecOn with
  | nil => rfl
  | append_singleton es e ih =>
    rw [List.foldl_append, List.foldl_cons, List.foldl_nil, List.reverse_append,
      List.reverse_singleton, List.singleton_append, Record.lookup]
    by_cases hnull : e.2.isNull = true
    · by_cases hname : e.1 = name <;> simp [hnull, hname, Record.find?_erase, ih]
    · by_cases hname : e.1 = name <;> simp [hnull, hname, Record.find?_insert, ih]

theorem find?_applyTo : (applyTo values fields).find? name =
    match values.find? name with
    | none => fields.find? name
    | some v => if v.isNull then none else some v := by
  rw [applyTo, find?_foldl_set, ← Record.find?_ofList, Record.ofList_entries]

theorem wellFormed_applyTo (hvalues : values.WellFormed) (hfields : fields.WellFormed) :
    (applyTo values fields).WellFormed := by
  intro name v hv
  rw [find?_applyTo] at hv
  split at hv
  · exact hfields name v hv
  next hu =>
    split at hv
    · cases hv
    · cases hv
      exact hvalues name _ hu

end Backlog.FieldArguments
