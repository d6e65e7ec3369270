import Backlog.Proofs.Field.Same
import Backlog.Proofs.Store.Readable
import Backlog.Proofs.Store.Registrations
import Mathlib.Logic.Relation

/-!
# Types stay, and inherit from the nearest

A type that extends another is given the fields of that one, as they are read from its row, and its
own over them.

**Main statement (`types_stay_and_inherit`).** Rows of the registry stay as they are and where they
are, under names of their own and with the first version. Along a chain of types that each extend
the one before, a type has the names that are declared along the chain. Each stands for its
declaration nearest to the type, read again from its text once for each row that it has passed
through (`Drifts`). That is the declaration itself where its values are read as they were written.

**The gap** (`exists_drifted_field`): the text of a floating number in an enumeration is read as
another number, which the next type inherits.
-/

namespace Backlog.Store

open Relation Store.Action

variable {s : Store} {t : ItemType} {fs gs own : FieldSet} {owns : List FieldSet} {name : String}
  {d e : FieldDefinition}

/-! ## Declarations along a chain -/

/-- The declaration of a name that is nearest to the head of a chain. -/
def nearest (owns : List FieldSet) (name : String) : Option FieldDefinition :=
  owns.findSome? (·.find? name)

/-- The second definition comes from the first by being read from its text, and by standing in for
what is the same. -/
def Drifts : FieldDefinition → FieldDefinition → Prop :=
  ReflTransGen fun d e => d.Redecodes e ∨ e.same d = true

/-- What comes from a definition whose values are read as they were written is the same. -/
theorem Drifts.same (h : Drifts d e) (hd : d.type.ChoicesHave Choices.ReadAsWritten) :
    e.same d = true := by
  suffices e.same d = true ∧ e.type.ChoicesHave Choices.ReadAsWritten from this.1
  induction h with
  | refl => exact ⟨d.same_self, hd⟩
  | @tail e e' _ hstep ih =>
    obtain ⟨hsame, hwritten⟩ := ih
    rcases hstep with hread | hsame'
    · rw [hread.eq_of_readAsWritten hwritten]
      exact ⟨hsame, hwritten⟩
    · exact ⟨FieldDefinition.same_trans hsame' hsame,
        FieldDefinition.readAsWritten_of_same hsame' hwritten⟩

/-- The set has the names declared along the chain, each with what comes from its nearest
declaration. -/
def Inherits (owns : List FieldSet) (fs : FieldSet) : Prop :=
  ∀ name, Option.Rel Drifts (nearest owns name) (fs.find? name)

theorem inherits_own (own : FieldSet) : Inherits [own] own := by
  intro name
  have hone : nearest [own] name = own.find? name := by
    rw [nearest, List.findSome?_cons]
    cases own.find? name <;> rfl
  rw [hone]
  cases own.find? name with
  | none => exact .none
  | some d => exact .some .refl

theorem Inherits.extended (h : Inherits owns fs) (own : FieldSet) :
    Inherits (own :: owns) (fs.extended own) := by
  intro name
  rw [nearest, List.findSome?_cons, FieldSet.find?_extended]
  cases own.find? name with
  | none => exact h name
  | some d => exact .some .refl

/-- What each field of a set is taken to by a step comes from the same declaration. -/
theorem Inherits.step {R : FieldDefinition → FieldDefinition → Prop} (h : Inherits owns fs)
    (hR : ∀ d e, R d e → d.Redecodes e ∨ e.same d = true)
    (hstep : ∀ name, Option.Rel R (fs.find? name) (gs.find? name)) : Inherits owns gs := by
  intro name
  have hfs := h name
  have hgs := hstep name
  cases hd : nearest owns name <;> cases he : fs.find? name <;> cases hf : gs.find? name <;>
    rw [hd, he] at hfs <;> rw [he, hf] at hgs <;> cases hfs <;> cases hgs
  · exact .none
  next hdrifts hstep => exact .some (hdrifts.tail (hR _ _ hstep))

theorem Inherits.reread (h : Inherits owns fs) (hread : FieldSet.ofText fs.text = .ok gs) :
    Inherits owns gs :=
  h.step (fun _ _ => Or.inl) (FieldSet.find?_of_ofText hread)

theorem Inherits.of_same (h : Inherits owns fs) (hsame : gs.same fs = true) : Inherits owns gs :=
  h.step (fun _ _ => Or.inr) (FieldSet.find?_of_same hsame)

theorem isSome_eq_of_rel {α β : Type} {R : α → β → Prop} {x : Option α} {y : Option β}
    (h : Option.Rel R x y) : x.isSome = y.isSome := by
  cases h <;> rfl

/-- What a set inherits, name by name. -/
structure Declares (owns : List FieldSet) (fs : FieldSet) : Prop where
  names : ∀ name, (fs.find? name).isSome ↔ ∃ own ∈ owns, (own.find? name).isSome
  drifts : ∀ name d, nearest owns name = some d → ∃ e, fs.find? name = some e ∧ Drifts d e
  same : ∀ name d, nearest owns name = some d → d.type.ChoicesHave Choices.ReadAsWritten →
    ∃ e, fs.find? name = some e ∧ e.same d = true

theorem Inherits.declares (h : Inherits owns fs) : Declares owns fs := by
  have hdrifts : ∀ name d, nearest owns name = some d →
      ∃ e, fs.find? name = some e ∧ Drifts d e := by
    intro name d hd
    have hname := h name
    rw [hd] at hname
    cases he : fs.find? name with
    | none =>
      rw [he] at hname
      cases hname
    | some e =>
      rw [he] at hname
      cases hname with
      | some hdrifts => exact ⟨e, rfl, hdrifts⟩
  refine ⟨fun name => ?_, hdrifts, fun name d hd hwritten => ?_⟩
  · have hnearest : (nearest owns name).isSome ↔ ∃ own ∈ owns, (own.find? name).isSome := by
      rw [nearest, List.findSome?_isSome_iff]
    rw [← hnearest, isSome_eq_of_rel (h name)]
  · obtain ⟨e, he, hfrom⟩ := hdrifts name d hd
    exact ⟨e, he, hfrom.same hwritten⟩

/-! ## Chains of types -/

/-- A chain of registrations that succeeded, each extending the type before it, the first none: the
fields that they declared, the last first, and the type that was answered last. -/
inductive Chain (done : List (Registration × ItemType)) : List FieldSet → ItemType → Prop
  | root {name : String} {own : FieldSet} {t : ItemType} (mem : (⟨none, name, own⟩, t) ∈ done) :
    Chain done [own] t
  | extend {parent t : ItemType} {owns : List FieldSet} {name : String} {own : FieldSet}
    (above : Chain done owns parent) (mem : (⟨some parent.name, name, own⟩, t) ∈ done) :
    Chain done (own :: owns) t

/-- The type that a registered row is read as inherits what was answered. -/
theorem Settled.inherits {g : Registration} {found : ItemType} (h : Settled s g t)
    (ht : Inherits owns t.fields) (hfound : findType t.name s = .ok (some found)) :
    Inherits owns found.fields := by
  obtain ⟨hname, -, r, hr, hrow⟩ := h
  rw [hname, findType_eq_ok_of_row hr] at hfound
  rcases hrow with hread | htext
  · rw [hread] at hfound
    cases hfound
    exact ht
  · exact ht.reread ((read_eq_ok htext).1 hfound).1

theorem Chain.inherits {done : List (Registration × ItemType)} (h : Chain done owns t)
    (hdone : ∀ p ∈ done, Settled s p.1 p.2) :
    Inherits owns t.fields ∧ ∃ g, g.name = t.name ∧ Settled s g t := by
  induction h with
  | root mem =>
    have hsettled := hdone _ mem
    obtain ⟨merged, hmerged, hsame⟩ := hsettled.fields
    cases hmerged
    exact ⟨(inherits_own _).of_same hsame, _, hsettled.name.symm, hsettled⟩
  | extend _ mem ih =>
    -- The parent is found as its row is read, which is settled like every row of the run.
    obtain ⟨hparent, g, -, habove⟩ := ih
    have hsettled := hdone _ mem
    obtain ⟨merged, hmerged, hsame⟩ := hsettled.fields
    obtain ⟨found, hfound, hmerged⟩ := typeNamed_bind_runOn_eq_ok.1 hmerged
    cases hmerged
    have hread := habove.inherits hparent hfound
    exact ⟨(hread.extended _).of_same hsame, _, hsettled.name.symm, hsettled⟩

/-! ## Runs -/

/-- **Types stay, and inherit from the nearest.** The rows of the registry after a run are there
after every longer one, as they were and in front. Their names are distinct, and their versions are
the first. A type at the end of a chain of registrations has a row that holds what was answered, or
is read as that. What was answered has the names declared along the chain, each with what comes from
its nearest declaration, and so has the type that the row is read as. -/
theorem types_stay_and_inherit (ops : List Operation) :
    (∀ more, (run ops empty).2.types <+: (run (ops ++ more) empty).2.types) ∧
      ((run ops empty).2.types.map TypeRow.name).Nodup ∧
      (∀ r ∈ (run ops empty).2.types, r.version = 1) ∧
      ∀ owns t, Chain (registered ops empty) owns t →
        (∃ r, (run ops empty).2.types.find? (·.name = t.name) = some r ∧
          (TypeRow.read r = .ok t ∨ r.fieldsText = t.fields.text)) ∧
        Declares owns t.fields ∧
        ∀ found, findType t.name (run ops empty).2 = .ok (some found) →
          Declares owns found.fields := by
  refine ⟨fun more => ?_, (wellRegistered_empty.run ops).names,
    fun r hr => ((named_of_reachable ⟨ops, rfl⟩).types r hr).version, fun owns t hchain => ?_⟩
  · rw [run_append]
    exact types_isPrefix_run more _
  · have hdone := fun p => settled_of_mem_registered ops empty (p := p)
    obtain ⟨hinherits, g, hname, hsettled⟩ := hchain.inherits hdone
    refine ⟨?_, hinherits.declares, fun found hfound => ?_⟩
    · rw [← hname]
      exact hsettled.row
    · exact (hsettled.inherits hinherits hfound).declares

/-! ## The gap -/

/-- The enumeration of `tinyNext` as a field. -/
def driftField : FieldDefinition := ⟨false, .enum (oneFloat tinyNext)⟩

def driftFields : FieldSet := Record.ofList [("x", driftField)]

/-- A type with that field, and one that extends it. -/
def driftRun : List Operation :=
  [.createType none "t" driftFields, .createType (some "t") "u" .empty]

/-- Both types are registered, and the field of the second is another one. -/
theorem types_driftRun : (registered driftRun empty).map (fun p =>
    (p.1.extended, p.1.name, p.2.name, (p.2.fields.find? "x").map (·.same driftField))) =
      [(none, "t", "t", some true), (some "t", "u", "u", some false)] := by
  decide +kernel

theorem chain_driftRun : ∃ u, Chain (registered driftRun empty) [.empty, driftFields] u ∧
    ∃ e, u.fields.find? "x" = some e ∧ e.same driftField = false := by
  have hregistration {p : Registration × ItemType} (hp : p ∈ registered driftRun empty) :
      p.1 = ⟨none, "t", driftFields⟩ ∨ p.1 = ⟨some "t", "u", .empty⟩ := by
    obtain ⟨op, hop, hp⟩ := mem_registrations_of_registered hp
    rcases List.mem_cons.1 hop with rfl | hop
    · exact .inl (List.mem_singleton.1 hp)
    · obtain rfl := List.mem_singleton.1 hop
      exact .inr (List.mem_singleton.1 hp)
  have hparent := types_driftRun ▸ List.mem_cons_self
  have hchild := types_driftRun ▸ List.mem_cons_of_mem _ (List.mem_singleton_self _)
  obtain ⟨⟨g, t⟩, ht, heq⟩ := List.mem_map.1 hparent
  obtain ⟨⟨g', u⟩, hu, heq'⟩ := List.mem_map.1 hchild
  simp only [Prod.mk.injEq, Option.map_eq_some_iff] at heq heq'
  obtain ⟨hroot, -, hname, -⟩ := heq
  obtain ⟨hextends, -, -, hdrifted⟩ := heq'
  obtain rfl : g = ⟨none, "t", driftFields⟩ := by
    rcases hregistration ht with h | rfl
    · exact h
    · cases hroot
  obtain rfl : g' = ⟨some t.name, "u", .empty⟩ := by
    rw [hname]
    rcases hregistration hu with rfl | h
    · cases hextends
    · exact h
  exact ⟨u, .extend (.root ht) hu, hdrifted⟩

theorem types_stay_and_inherit_driftRun : ∃ u,
    Chain (registered driftRun empty) [.empty, driftFields] u ∧
      Declares [.empty, driftFields] u.fields := by
  obtain ⟨u, hchain, -⟩ := chain_driftRun
  obtain ⟨-, -, -, hinherits⟩ := types_stay_and_inherit driftRun
  exact ⟨u, hchain, (hinherits _ u hchain).2.1⟩

/-- Not every field is defined as by the nearest declaration. -/
theorem exists_drifted_field : ¬ ∀ (ops : List Operation) (owns : List FieldSet) (t : ItemType),
    Chain (registered ops empty) owns t → ∀ name d, nearest owns name = some d →
      ∃ e, t.fields.find? name = some e ∧ e.same d = true := by
  intro h
  obtain ⟨u, hchain, e, he, hother⟩ := chain_driftRun
  have hnearest : nearest [.empty, driftFields] "x" = some driftField := rfl
  obtain ⟨e', he', hsame⟩ := h _ _ u hchain "x" driftField hnearest
  obtain rfl : e = e' := Option.some.inj (he.symm.trans he')
  rw [hother] at hsame
  cases hsame

end Backlog.Store
