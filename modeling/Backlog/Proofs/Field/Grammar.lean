import Backlog.Proofs.Field.Enumeration
import Backlog.Proofs.Json.Layout

/-!
# What is read as a type, a definition, or a field set

A tagged type is read in three passes: its kind, the members that the kind asks for, and the values
of an enumeration. Put together they accept a small language: `TypeSchema` is its syntax,
`TypeSchema.WrittenAs` says how it is written, and `TypeSchema.Sound` which of it makes sense.

**Main statement (`FieldSet.readsExactly_written`).** Exactly the objects that write a sound schema
are read as types, exactly the values that declare one as definitions, and exactly the texts of
objects of such values as field sets. Everything else is a `SchemaFault`.

**Strict and lenient.** A type has no members but those of its kind; a definition may have others.
A definition can also be the pair of its two members.

**Texts** are those that `Json.parse` reads, with the levels and the numbers that it takes.
-/

namespace Backlog

open Json (Layout Decoder Member need)

theorem Json.record?_eq_some {v : Json} {r : Record Json} :
    v.record? = some r ↔ ∃ ms, v = .obj ms ∧ Record.ofList ms = r := by
  cases v <;> simp [record?]

/-! ## Kinds -/

namespace Kind

variable {k : Kind} {v : Json} {name : String}

/-- A kind is given by its name, or by an object of the name with `null`. -/
def GivenBy (k : Kind) (v : Json) : Prop := v = .str k.name ∨ v = .obj [(k.name, .null)]

theorem choose_eq_ok :
    Decoder.choose (all.map fun k => (k.name, k)) name = .ok k ↔ name = k.name := by
  rw [Decoder.choose]
  apply Iff.intro
  · intro h
    split at h
    next x hx =>
      cases h
      obtain ⟨x, -, hx⟩ := List.mem_map.1 (Record.mem_of_lookup hx)
      cases hx
      rfl
    · cases h
  · intro h
    subst h
    cases k with
    | scalar s => cases s <;> rfl
    | enum | list => rfl

theorem fromJson_eq_ok : Kind.decoder.fromJson v = .ok k ↔ k.GivenBy v := by
  have hunit : ∀ w : Json, ∀ u, Decoder.unit.fromJson w = .ok u ↔ w = .null := by
    intro w u
    cases w <;> simp [Decoder.unit, Decoder.scalar]
  show (Decoder.choiceOf v >>= fun chosen => Decoder.choose _ chosen.1 >>= fun x => _) = _ ↔ _
  rw [GivenBy]
  cases v with
  | str s => simp [Decoder.choiceOf, bind_eq_ok, choose_eq_ok, pure, Except.pure]
  | obj ms =>
    rcases ms with _ | ⟨⟨name, w⟩, _ | ⟨_, _⟩⟩
    · simp [Decoder.choiceOf]
    · simp [Decoder.choiceOf, bind_eq_ok, choose_eq_ok, hunit, pure, Except.pure]
    · simp [Decoder.choiceOf]
  | _ => simp [Decoder.choiceOf]

theorem GivenBy.unique {k' : Kind} (h : k.GivenBy v) (h' : k'.GivenBy v) : k = k' :=
  Except.ok.inj ((fromJson_eq_ok.2 h).symm.trans (fromJson_eq_ok.2 h'))

end Kind

/-! ## Members of a type -/

namespace FieldType.Payload

section Slots

variable {α : Type} {l : Layout Payload α} (other : String)

theorem slot_kind (hstart : l.start = {}) (hkind : l.find? "kind" = some kindMember)
    (hmembers : ∀ m ∈ l.members, m = kindMember ∨ m = otherMember other ∨ m = valuesMember) :
    l.Slot "kind" (·.kind) Kind.decoder.fromJson := by
  refine ⟨by rw [hstart], ⟨kindMember, hkind, Member.fills_map fun _ _ => rfl⟩, ?_⟩
  intro m hm hname
  rcases hmembers m hm with rfl | rfl | rfl
  · exact absurd rfl hname
  · exact Member.keeps_map fun _ _ => rfl
  · exact Member.keeps_map fun _ _ => rfl

theorem slot_other (hstart : l.start = {}) (hother : l.find? other = some (otherMember other))
    (hmembers : ∀ m ∈ l.members, m = kindMember ∨ m = otherMember other ∨ m = valuesMember) :
    l.Slot other (·.other) Kind.decoder.fromJson := by
  refine ⟨by rw [hstart], ⟨otherMember other, hother, Member.fills_map fun _ _ => rfl⟩, ?_⟩
  intro m hm hname
  rcases hmembers m hm with rfl | rfl | rfl
  · exact Member.keeps_map fun _ _ => rfl
  · exact absurd rfl hname
  · exact Member.keeps_map fun _ _ => rfl

theorem slot_values (hstart : l.start = {}) (hvalues : l.find? "values" = some valuesMember)
    (hmembers : ∀ m ∈ l.members, m = kindMember ∨ m = otherMember other ∨ m = valuesMember) :
    l.Slot "values" (·.values) (Decoder.list .any).fromJson := by
  refine ⟨by rw [hstart], ⟨valuesMember, hvalues, Member.fills_map fun _ _ => rfl⟩, ?_⟩
  intro m hm hname
  rcases hmembers m hm with rfl | rfl | rfl
  · exact Member.keeps_map fun _ _ => rfl
  · exact Member.keeps_map fun _ _ => rfl
  · exact absurd rfl hname

end Slots

theorem need_eq_ok {β : Type} {name : String} {o : Option β} {x : β} :
    need name o = .ok x ↔ o = some x := by
  cases o <;> simp [need]

theorem values_eq_ok {v : Json} {ws : List Json} :
    (Decoder.list .any).fromJson v = .ok ws ↔ v = .arr ws := by
  cases v with
  | arr xs =>
    show xs.mapM Decoder.any.fromJson = .ok ws ↔ _
    simp [Json.mapM_any]
  | _ => simp [Decoder.list]

variable {ms : List (String × Json)} {k : Kind}

theorem scalarLayout_eq_ok : scalarLayout.fromObject ms = .ok k ↔
    ∃ v, Record.ofList ms = .ofList [("kind", v)] ∧ k.GivenBy v := by
  have hkind : scalarLayout.Slot "kind" (·.kind) Kind.decoder.fromJson :=
    slot_kind "" rfl rfl (by simp [scalarLayout])
  have hread : scalarLayout.fromObject ms = .ok k ↔ scalarLayout.ReadsAll (.ofList ms) ∧
      ∃ v, (Record.ofList ms).find? "kind" = some v ∧ k.GivenBy v := by
    refine Layout.fromObject_eq_ok_iff fun s hs => ?_
    simp only [scalarLayout, need_eq_ok, hkind.get_eq_some_iff hs, Kind.fromJson_eq_ok]
  have hreads {v : Json} (hv : k.GivenBy v) : scalarLayout.ReadsAll (.ofList [("kind", v)]) := by
    apply Layout.readsAll_ofList
    simpa using hkind.reads (Kind.fromJson_eq_ok.2 hv)
  have hfind (v : Json) : (Record.ofList [("kind", v)]).find? "kind" = some v := by
    simp [Record.find?_ofList, Record.lookup]
  rw [hread]
  apply Iff.intro
  · intro h
    obtain ⟨hall, v, hv, hk⟩ := h
    refine ⟨v, Layout.eq_of_closed rfl hall (hreads hk) ?_, hk⟩
    simp [scalarLayout, kindMember, hv, hfind]
  · intro h
    obtain ⟨v, hms, hk⟩ := h
    rw [hms]
    exact ⟨hreads hk, v, hfind v, hk⟩

theorem listLayout_eq_ok : listLayout.fromObject ms = .ok k ↔
    ∃ v w k', Record.ofList ms = .ofList [("kind", v), ("element_kind", w)] ∧
      Kind.GivenBy k' v ∧ k.GivenBy w := by
  have hmembers : ∀ m ∈ listLayout.members,
      m = kindMember ∨ m = otherMember "element_kind" ∨ m = valuesMember := by
    simp [listLayout]
  have hkind := slot_kind "element_kind" rfl rfl hmembers
  have helement := slot_other "element_kind" rfl rfl hmembers
  have hread : listLayout.fromObject ms = .ok k ↔ listLayout.ReadsAll (.ofList ms) ∧
      (∃ k' v, (Record.ofList ms).find? "kind" = some v ∧ Kind.GivenBy k' v) ∧
        ∃ w, (Record.ofList ms).find? "element_kind" = some w ∧ k.GivenBy w := by
    refine Layout.fromObject_eq_ok_iff fun s hs => ?_
    simp only [listLayout, bind_eq_ok, need_eq_ok, exists_and_right, hkind.get_eq_some_iff hs,
      helement.get_eq_some_iff hs, Kind.fromJson_eq_ok]
  have hreads {k' : Kind} {v w : Json} (hv : k'.GivenBy v) (hw : k.GivenBy w) :
      listLayout.ReadsAll (.ofList [("kind", v), ("element_kind", w)]) := by
    apply Layout.readsAll_ofList
    simpa using ⟨hkind.reads (Kind.fromJson_eq_ok.2 hv), helement.reads (Kind.fromJson_eq_ok.2 hw)⟩
  have hfind (v w : Json) :
      let r := Record.ofList [("kind", v), ("element_kind", w)]
      r.find? "kind" = some v ∧ r.find? "element_kind" = some w := by
    simp [Record.find?_ofList, Record.lookup]
  rw [hread]
  apply Iff.intro
  · intro h
    obtain ⟨hall, ⟨k', v, hv, hk'⟩, w, hw, hk⟩ := h
    refine ⟨v, w, k', Layout.eq_of_closed rfl hall (hreads hk' hk) ?_, hk', hk⟩
    simp [listLayout, kindMember, otherMember, hv, hw, hfind]
  · intro h
    obtain ⟨v, w, k', hms, hk', hk⟩ := h
    rw [hms]
    obtain ⟨hv, hw⟩ := hfind v w
    exact ⟨hreads hk' hk, ⟨k', v, hv, hk'⟩, w, hw, hk⟩

theorem enumLayout_eq_ok {ws : List Json} : enumLayout.fromObject ms = .ok (k, ws) ↔
    ∃ v w k', Record.ofList ms = .ofList [("kind", v), ("base_kind", w), ("values", .arr ws)] ∧
      Kind.GivenBy k' v ∧ k.GivenBy w := by
  have hmembers : ∀ m ∈ enumLayout.members,
      m = kindMember ∨ m = otherMember "base_kind" ∨ m = valuesMember := by
    simp [enumLayout]
  have hkind := slot_kind "base_kind" rfl rfl hmembers
  have hbase := slot_other "base_kind" rfl rfl hmembers
  have hvalues := slot_values "base_kind" rfl rfl hmembers
  have hread : enumLayout.fromObject ms = .ok (k, ws) ↔ enumLayout.ReadsAll (.ofList ms) ∧
      (∃ k' v, (Record.ofList ms).find? "kind" = some v ∧ Kind.GivenBy k' v) ∧
        (∃ w, (Record.ofList ms).find? "base_kind" = some w ∧ k.GivenBy w) ∧
          (Record.ofList ms).find? "values" = some (.arr ws) := by
    refine Layout.fromObject_eq_ok_iff fun s hs => ?_
    have hfinish : enumLayout.finish s = .ok (k, ws) ↔
        (∃ k', s.kind = some k') ∧ s.other = some k ∧ s.values = some ws := by
      simp [enumLayout, bind_eq_ok, need_eq_ok, pure, Except.pure]
    simp only [hfinish, hkind.get_eq_some_iff hs, hbase.get_eq_some_iff hs,
      hvalues.get_eq_some_iff hs, Kind.fromJson_eq_ok, values_eq_ok, exists_eq_right]
  have hreads {k' : Kind} {v w : Json} (hv : k'.GivenBy v) (hw : k.GivenBy w) :
      enumLayout.ReadsAll (.ofList [("kind", v), ("base_kind", w), ("values", .arr ws)]) := by
    apply Layout.readsAll_ofList
    simpa using ⟨hkind.reads (Kind.fromJson_eq_ok.2 hv), hbase.reads (Kind.fromJson_eq_ok.2 hw),
      hvalues.reads (values_eq_ok.2 rfl)⟩
  have hfind (v w : Json) :
      let r := Record.ofList [("kind", v), ("base_kind", w), ("values", .arr ws)]
      r.find? "kind" = some v ∧ r.find? "base_kind" = some w ∧
        r.find? "values" = some (.arr ws) := by
    simp [Record.find?_ofList, Record.lookup]
  rw [hread]
  apply Iff.intro
  · intro h
    obtain ⟨hall, ⟨k', v, hv, hk'⟩, ⟨w, hw, hk⟩, hws⟩ := h
    refine ⟨v, w, k', Layout.eq_of_closed rfl hall (hreads hk' hk) ?_, hk', hk⟩
    simp [enumLayout, kindMember, otherMember, valuesMember, hv, hw, hws, hfind]
  · intro h
    obtain ⟨v, w, k', hms, hk', hk⟩ := h
    rw [hms]
    obtain ⟨hv, hw, hws⟩ := hfind v w
    exact ⟨hreads hk' hk, ⟨k', v, hv, hk'⟩, ⟨w, hw, hk⟩, hws⟩

end FieldType.Payload

/-! ## Types -/

/-- A field type as it is declared, with the values of an enumeration in wire shape. -/
inductive TypeSchema
  | scalar (s : Scalar)
  | list (element : Scalar)
  | enum (base : Scalar) (values : List Json)

namespace TypeSchema

/-- The members of an object that writes a schema, and no other ones. -/
inductive WrittenIn : TypeSchema → Record Json → Prop
  | scalar {s : Scalar} {kind : Json} (kindGiven : (Kind.scalar s).GivenBy kind) :
    WrittenIn (.scalar s) (.ofList [("kind", kind)])
  | list {s : Scalar} {kind element : Json} (kindGiven : Kind.list.GivenBy kind)
    (elementGiven : (Kind.scalar s).GivenBy element) :
    WrittenIn (.list s) (.ofList [("kind", kind), ("element_kind", element)])
  | enum {s : Scalar} {kind base : Json} {ws : List Json} (kindGiven : Kind.enum.GivenBy kind)
    (baseGiven : (Kind.scalar s).GivenBy base) :
    WrittenIn (.enum s ws) (.ofList [("kind", kind), ("base_kind", base), ("values", .arr ws)])

def kind : TypeSchema → Kind
  | scalar s => .scalar s
  | list _ => .list
  | enum .. => .enum

theorem WrittenIn.kind {σ : TypeSchema} {r : Record Json} (h : σ.WrittenIn r) :
    ∃ tag, r.find? "kind" = some tag ∧ σ.kind.GivenBy tag := by
  cases h with
  | scalar kindGiven | list kindGiven | enum kindGiven =>
    exact ⟨_, by simp [Record.find?_ofList, Record.lookup], kindGiven⟩

/-- A value writes a schema. -/
def WrittenAs (σ : TypeSchema) (v : Json) : Prop := ∃ r, v.record? = some r ∧ σ.WrittenIn r

/-- An enumeration has values, and all of them convert. -/
def Sound : TypeSchema → Prop
  | scalar _ | list _ => True
  | enum base ws => ws ≠ [] ∧ ∀ w ∈ ws, ∃ v, base.toStorage w = .ok v

/-- The type that is declared. -/
def type : TypeSchema → Except ConversionError FieldType
  | scalar s => .ok (.scalar s)
  | list s => .ok (.list s)
  | enum base ws => FieldType.enumOf (.scalar base) ws

theorem exists_type_iff {σ : TypeSchema} : (∃ t, σ.type = .ok t) ↔ σ.Sound := by
  cases σ with
  | scalar s | list s => simp [type, Sound]
  | enum base ws => simp [type, Sound, FieldType.exists_enumOf_iff]

end TypeSchema

namespace FieldType

variable {v : Json} {t : FieldType} {k : Kind} {ms : List (String × Json)}

theorem ofJson_eq_ok : ofJson v = .ok t ↔ ∃ ms tag k, v = .obj ms ∧
    (Record.ofList ms).find? "kind" = some tag ∧ k.GivenBy tag ∧
      ofPayload k (.obj ms) = .ok t := by
  rw [ofJson]
  cases v with
  | obj ms =>
    have hmember : (Json.obj ms).member? "kind" = (Record.ofList ms).find? "kind" := rfl
    rw [hmember]
    cases htag : (Record.ofList ms).find? "kind" with
    | none => simp [htag]
    | some tag =>
      cases hk : Kind.decoder.fromJson tag with
      | error f => simp [htag, ← Kind.fromJson_eq_ok, hk]
      | ok k => simp [htag, ← Kind.fromJson_eq_ok, hk]
  | _ => simp [Json.member?, Json.record?]

theorem ofKind_eq_ok : ofKind k = .ok t ↔ ∃ s, k = .scalar s ∧ t = .scalar s := by
  simp [ofKind, simple_eq_ok, @eq_comm _ t]

theorem listOf_eq_ok : listOf k = .ok t ↔ ∃ s, k = .scalar s ∧ t = .list s := by
  simp [listOf, simple_eq_ok, @eq_comm _ t]

theorem ofPayload_scalar {s : Scalar} : ofPayload (.scalar s) (.obj ms) = .ok t ↔
    ∃ k, Payload.scalarLayout.fromObject ms = .ok k ∧ ofKind k = .ok t := by
  simp [ofPayload, bind_eq_ok, Layout.fromJson]

theorem ofPayload_list : ofPayload .list (.obj ms) = .ok t ↔
    ∃ k, Payload.listLayout.fromObject ms = .ok k ∧ listOf k = .ok t := by
  simp [ofPayload, bind_eq_ok, Layout.fromJson]

theorem ofPayload_enum : ofPayload .enum (.obj ms) = .ok t ↔
    ∃ k ws, Payload.enumLayout.fromObject ms = .ok (k, ws) ∧ enumOf k ws = .ok t := by
  simp [ofPayload, bind_eq_ok, Layout.fromJson]

theorem exists_writtenIn (h : ofPayload k (.obj ms) = .ok t) {tag : Json}
    (htag : (Record.ofList ms).find? "kind" = some tag) (hk : k.GivenBy tag) :
    ∃ σ : TypeSchema, σ.WrittenIn (Record.ofList ms) ∧ σ.type = .ok t := by
  cases k with
  | scalar s =>
    obtain ⟨k', hread, hbuilt⟩ := ofPayload_scalar.1 h
    obtain ⟨kind, hms, hk'⟩ := Payload.scalarLayout_eq_ok.1 hread
    rw [hms] at htag ⊢
    obtain rfl : kind = tag := by simpa [Record.find?_ofList, Record.lookup] using htag
    obtain rfl := hk.unique hk'
    obtain ⟨_, ⟨⟩, rfl⟩ := ofKind_eq_ok.1 hbuilt
    exact ⟨.scalar s, .scalar hk, rfl⟩
  | list =>
    obtain ⟨k, hread, hbuilt⟩ := ofPayload_list.1 h
    obtain ⟨kind, element, k', hms, hk', helement⟩ := Payload.listLayout_eq_ok.1 hread
    rw [hms] at htag ⊢
    obtain rfl : kind = tag := by simpa [Record.find?_ofList, Record.lookup] using htag
    obtain ⟨s, rfl, rfl⟩ := listOf_eq_ok.1 hbuilt
    exact ⟨.list s, .list hk helement, rfl⟩
  | enum =>
    obtain ⟨k, ws, hread, hbuilt⟩ := ofPayload_enum.1 h
    obtain ⟨kind, base, k', hms, hk', hbase⟩ := Payload.enumLayout_eq_ok.1 hread
    rw [hms] at htag ⊢
    obtain rfl : kind = tag := by simpa [Record.find?_ofList, Record.lookup] using htag
    obtain ⟨s, c, rfl, -, -⟩ := enumOf_eq_ok.1 hbuilt
    exact ⟨.enum s ws, .enum hk hbase, hbuilt⟩

theorem ofPayload_of_writtenIn {σ : TypeSchema} {r : Record Json} (hms : Record.ofList ms = r)
    (h : σ.WrittenIn r) (ht : σ.type = .ok t) : ofPayload σ.kind (.obj ms) = .ok t := by
  cases h with
  | @scalar s kind kindGiven =>
    exact ofPayload_scalar.2 ⟨_, Payload.scalarLayout_eq_ok.2 ⟨kind, hms, kindGiven⟩, ht⟩
  | @list s kind element kindGiven elementGiven =>
    refine ofPayload_list.2 ⟨.scalar s, ?_, ht⟩
    exact Payload.listLayout_eq_ok.2 ⟨kind, element, _, hms, kindGiven, elementGiven⟩
  | @enum s kind base ws kindGiven baseGiven =>
    refine ofPayload_enum.2 ⟨.scalar s, ws, ?_, ht⟩
    exact Payload.enumLayout_eq_ok.2 ⟨kind, base, _, hms, kindGiven, baseGiven⟩

/-- What is read as a type writes a schema of it. -/
theorem ofJson_eq_ok_iff : ofJson v = .ok t ↔ ∃ σ : TypeSchema, σ.WrittenAs v ∧ σ.type = .ok t := by
  apply Iff.intro
  · intro h
    obtain ⟨ms, tag, k, rfl, htag, hk, hpayload⟩ := ofJson_eq_ok.1 h
    obtain ⟨σ, hσ, ht⟩ := exists_writtenIn hpayload htag hk
    exact ⟨σ, ⟨_, rfl, hσ⟩, ht⟩
  · intro h
    obtain ⟨σ, ⟨r, hr, hwritten⟩, ht⟩ := h
    obtain ⟨ms, rfl, hms⟩ := Json.record?_eq_some.1 hr
    obtain ⟨tag, htag, hkind⟩ := hwritten.kind
    exact ofJson_eq_ok.2
      ⟨ms, tag, σ.kind, rfl, hms ▸ htag, hkind, ofPayload_of_writtenIn hms hwritten ht⟩

/-- A value writes a sound schema. -/
def Written (v : Json) : Prop := ∃ σ : TypeSchema, σ.WrittenAs v ∧ σ.Sound

theorem exists_ofJson_iff : (∃ t, ofJson v = .ok t) ↔ Written v := by
  simp only [ofJson_eq_ok_iff, Written, ← TypeSchema.exists_type_iff]
  rw [exists_comm]
  simp only [exists_and_left]

end FieldType

/-! ## Definitions -/

namespace FieldDefinition

variable {v : Json} {d : FieldDefinition}

/-- A value has such members of a definition: an object, in which others may stand beside them, or
the pair of both. -/
inductive Declares : Json → Bool → Json → Prop
  | object {v : Json} {r : Record Json} {required : Bool} {type : Json}
    (members : v.record? = some r) (typeGiven : r.find? "type" = some type)
    (requiredGiven : r.find? "required" = some (.bool required)) : Declares v required type
  | optional {v : Json} {r : Record Json} {type : Json}
    (members : v.record? = some r) (typeGiven : r.find? "type" = some type)
    (notGiven : r.find? "required" = none) : Declares v false type
  | pair {required : Bool} {type : Json} : Declares (.arr [.bool required, type]) required type

namespace Envelope

variable {e : Envelope} {ms : List (String × Json)} {required : Bool} {type : Json}

theorem slot_required : layout.Slot "required" (·.required) Decoder.boolean.fromJson := by
  refine ⟨rfl, ⟨_, rfl, Member.fills_map fun _ _ => rfl⟩, ?_⟩
  intro m hm hname
  simp only [layout, List.mem_cons, List.not_mem_nil, or_false] at hm
  rcases hm with rfl | rfl
  · exact absurd rfl hname
  · exact Member.keeps_map fun _ _ => rfl

theorem slot_type : layout.Slot "type" (·.type) (Decoder.optional .any).fromJson := by
  refine ⟨rfl, ⟨_, rfl, Member.fills_map fun _ _ => rfl⟩, ?_⟩
  intro m hm hname
  simp only [layout, List.mem_cons, List.not_mem_nil, or_false] at hm
  rcases hm with rfl | rfl
  · exact Member.keeps_map fun _ _ => rfl
  · exact absurd rfl hname

theorem boolean_eq_ok {b : Bool} : Decoder.boolean.fromJson v = .ok b ↔ v = .bool b := by
  cases v <;> simp [Decoder.boolean, Decoder.scalar]

theorem exists_optional (v : Json) : ∃ o, (Decoder.optional .any).fromJson v = .ok o := by
  cases v <;> exact ⟨_, rfl⟩

theorem optional_eq_some :
    (Decoder.optional .any).fromJson v = .ok (some type) ↔ v = type ∧ v ≠ .null := by
  cases v <;> simp [Decoder.optional, Decoder.any, Except.map]

theorem declares_of_fromObject (h : layout.fromObject ms = .ok e)
    (htype : e.type = some (some type)) :
    Declares (.obj ms) (e.required.getD false) type ∧ type ≠ .null := by
  obtain ⟨s, hs, hs'⟩ := Layout.fromObject_eq_ok.1 h
  obtain rfl : s = e := Except.ok.inj hs'
  obtain ⟨v, hv, hread⟩ := (slot_type.get_eq_some_iff hs).1 htype
  obtain ⟨rfl, hne⟩ := optional_eq_some.1 hread
  refine ⟨?_, hne⟩
  cases hrequired : s.required with
  | none => exact .optional rfl hv ((slot_required.get_eq_none_iff hs).1 hrequired)
  | some b =>
    obtain ⟨w, hw, hread⟩ := (slot_required.get_eq_some_iff hs).1 hrequired
    obtain rfl := boolean_eq_ok.1 hread
    exact .object rfl hv hw

theorem exists_fromObject {r : Record Json} (hms : Record.ofList ms = r)
    (htype : r.find? "type" = some type)
    (hrequired : ∀ v, r.find? "required" = some v → ∃ b, v = .bool b) (hne : type ≠ .null) :
    ∃ e, layout.fromObject ms = .ok e ∧ e.type = some (some type) ∧
      (∀ b, e.required = some b ↔ r.find? "required" = some (.bool b)) := by
  have hreads : layout.ReadsAll r := by
    intro m hm
    obtain ⟨name, v⟩ := m
    have hv := Record.mem_entries_iff.1 hm
    by_cases hname : name = "required"
    · subst hname
      obtain ⟨b, rfl⟩ := hrequired v hv
      exact slot_required.reads (boolean_eq_ok.2 rfl)
    · by_cases hname' : name = "type"
      · subst hname'
        obtain ⟨o, ho⟩ := exists_optional v
        exact slot_type.reads ho
      · simp [Layout.Reads, Layout.find?, layout, Ne.symm hname, Ne.symm hname']
  obtain ⟨s, hs⟩ := Layout.exists_fieldsOf_iff.2 hreads
  refine ⟨s, Layout.fromObject_eq_ok.2 ⟨s, hms ▸ hs, rfl⟩, ?_, fun b => ?_⟩
  · exact (slot_type.get_eq_some_iff hs).2 ⟨type, htype, optional_eq_some.2 ⟨rfl, hne⟩⟩
  · rw [slot_required.get_eq_some_iff hs]
    simp [boolean_eq_ok]

theorem fromJson_arr {xs : List Json} : layout.fromJson (.arr xs) = .ok e ↔
    ∃ b t o, xs = [.bool b, t] ∧ (Decoder.optional .any).fromJson t = .ok o ∧
      ⟨some b, some o⟩ = e := by
  match xs with
  | [] => simp [Layout.fromJson, Layout.elementsOf, layout]
  | [x] => simp [Layout.fromJson, Layout.elementsOf, layout, bind_eq_ok]
  | [x, y] =>
    simp [-Bool.exists_bool, Layout.fromJson, Layout.elementsOf, layout, bind_eq_ok, Decoder.map,
      boolean_eq_ok, pure, Except.pure, and_assoc]
  | x :: y :: z :: rest => simp [Layout.fromJson, Layout.elementsOf, layout, bind_eq_ok]

/-- What is read as an envelope declares what the envelope holds. -/
theorem fromJson_iff_declares :
    (∃ e, layout.fromJson v = .ok e ∧ e.required.getD false = required ∧
      e.type = some (some type)) ↔ Declares v required type ∧ type ≠ .null := by
  apply Iff.intro
  · intro h
    obtain ⟨e, he, rfl, htype⟩ := h
    cases v with
    | obj ms => exact declares_of_fromObject he htype
    | arr xs =>
      obtain ⟨b, t, o, rfl, ho, rfl⟩ := fromJson_arr.1 he
      obtain rfl : o = some type := Option.some.inj htype
      obtain ⟨rfl, hne⟩ := optional_eq_some.1 ho
      exact ⟨.pair, hne⟩
    | _ => cases he
  · intro h
    obtain ⟨hdeclares, hne⟩ := h
    cases hdeclares with
    | object members typeGiven requiredGiven =>
      obtain ⟨ms, rfl, hms⟩ := Json.record?_eq_some.1 members
      obtain ⟨e, he, htype, hrequired⟩ :=
        exists_fromObject hms typeGiven (by simp [requiredGiven]) hne
      exact ⟨e, he, by rw [(hrequired _).2 requiredGiven, Option.getD_some], htype⟩
    | optional members typeGiven notGiven =>
      obtain ⟨ms, rfl, hms⟩ := Json.record?_eq_some.1 members
      obtain ⟨e, he, htype, hrequired⟩ := exists_fromObject hms typeGiven (by simp [notGiven]) hne
      have hnone : e.required = none := by
        rw [Option.eq_none_iff_forall_ne_some]
        intro b hb
        rw [hrequired, notGiven] at hb
        cases hb
      exact ⟨e, he, by rw [hnone, Option.getD_none], htype⟩
    | pair =>
      have hread := optional_eq_some.2 ⟨rfl, hne⟩
      exact ⟨_, fromJson_arr.2 ⟨required, type, _, rfl, hread, rfl⟩, rfl, rfl⟩

end Envelope

/-- What is read as a definition declares it. -/
theorem ofJson_eq_ok_iff : ofJson v = .ok d ↔
    ∃ type, Declares v d.required type ∧ FieldType.ofJson type = .ok d.type := by
  have hnull : ∀ {type t}, FieldType.ofJson type = .ok t → type ≠ .null := by
    intro type t ht htype
    subst htype
    cases ht
  have hread : ofJson v = .ok d ↔ ∃ type, (∃ e, Envelope.layout.fromJson v = .ok e ∧
      e.required.getD false = d.required ∧ e.type = some (some type)) ∧
        FieldType.ofJson type = .ok d.type := by
    simp only [← Option.join_eq_some_iff]
    rw [ofJson.eq_def]
    obtain ⟨required, t⟩ := d
    cases Envelope.layout.fromJson v with
    | error f => simp
    | ok e =>
      cases htype : e.type.join with
      | none => simp [htype]
      | some type => simp [htype, and_comm]
  simp only [hread, Envelope.fromJson_iff_declares]
  apply Iff.intro
  · intro h
    obtain ⟨type, ⟨hdeclares, -⟩, ht⟩ := h
    exact ⟨type, hdeclares, ht⟩
  · intro h
    obtain ⟨type, hdeclares, ht⟩ := h
    exact ⟨type, ⟨hdeclares, hnull ht⟩, ht⟩

/-- A value declares a sound schema. -/
def Written (v : Json) : Prop := ∃ required type, Declares v required type ∧ FieldType.Written type

theorem exists_ofJson_iff : (∃ d, ofJson v = .ok d) ↔ Written v := by
  simp only [ofJson_eq_ok_iff, Written, ← FieldType.exists_ofJson_iff]
  apply Iff.intro
  · intro h
    obtain ⟨d, type, hdeclares, htype⟩ := h
    exact ⟨d.required, type, hdeclares, d.type, htype⟩
  · intro h
    obtain ⟨required, type, hdeclares, t, htype⟩ := h
    exact ⟨⟨required, t⟩, type, hdeclares, htype⟩

end FieldDefinition

/-! ## Field sets -/

namespace FieldSet

variable {text : String} {fs : FieldSet}

/-- A text is that of an object of definitions. -/
def Written (text : String) : Prop :=
  ∃ v r, Json.parse text = .ok v ∧ v.record? = some r ∧
    ∀ name m, r.find? name = some m → FieldDefinition.Written m

theorem ofText_eq_ok : ofText text = .ok fs ↔ ∃ v r ds, Json.parse text = .ok v ∧
    v.record? = some r ∧ ofEntries r.entries = .ok ds ∧ fs = .ofList ds := by
  rw [ofText.eq_def]
  cases hv : Json.parse text with
  | error f => simp
  | ok v =>
    cases hr : v.record? with
    | none => simp [hr]
    | some r => simp [hr, @eq_comm _ fs]

theorem exists_ofEntries_iff {r : Record Json} : (∃ ds, ofEntries r.entries = .ok ds) ↔
    ∀ name m, r.find? name = some m → ∃ d, FieldDefinition.ofJson m = .ok d := by
  simp only [ofEntries_eq_ok]
  apply Iff.intro
  · intro h name m hm
    obtain ⟨ds, hds⟩ := h
    obtain ⟨d, -, -, hd⟩ := exists_of_mem_left hds (Record.mem_entries_iff.2 hm)
    exact ⟨d.2, hd⟩
  · intro h
    refine exists_forall₂ fun e he => ?_
    obtain ⟨d, hd⟩ := h e.1 e.2 (Record.mem_entries_iff.1 he)
    exact ⟨(e.1, d), rfl, hd⟩

theorem rel_of_ofEntries {r : Record Json} {ds : List (String × FieldDefinition)}
    (h : ofEntries r.entries = .ok ds) (name : String) :
    Option.Rel (fun m d => FieldDefinition.ofJson m = .ok d) (r.find? name)
      ((Record.ofList ds).find? name) := by
  have hpairs := ofEntries_eq_ok.1 h
  refine Record.find?_of_forall₂ ?_ name
  rw [Record.entries_ofList]
  · exact hpairs
  · rw [names_of_forall₂ hpairs fun _ _ h => h.1]
    exact r.sorted

theorem ofText_eq_ok_iff : ofText text = .ok fs ↔ ∃ v r, Json.parse text = .ok v ∧
    v.record? = some r ∧
      ∀ name, Option.Rel (fun m d => FieldDefinition.ofJson m = .ok d) (r.find? name)
        (fs.find? name) := by
  rw [ofText_eq_ok]
  apply Iff.intro
  · intro h
    obtain ⟨v, r, ds, hv, hr, hds, rfl⟩ := h
    exact ⟨v, r, hv, hr, rel_of_ofEntries hds⟩
  · intro h
    obtain ⟨v, r, hv, hr, hrel⟩ := h
    have hall : ∀ name m, r.find? name = some m → ∃ d, FieldDefinition.ofJson m = .ok d := by
      intro name m hm
      have hname := hrel name
      rw [hm] at hname
      generalize fs.find? name = found at hname
      cases hname with
      | some hd => exact ⟨_, hd⟩
    obtain ⟨ds, hds⟩ := exists_ofEntries_iff.2 hall
    refine ⟨v, r, ds, hv, hr, hds, Record.ext_find? fun name => ?_⟩
    have hname := hrel name
    have hname' := rel_of_ofEntries hds name
    generalize r.find? name = given at hname hname'
    generalize fs.find? name = found at hname ⊢
    generalize (Record.ofList ds).find? name = found' at hname' ⊢
    cases hname with
    | none =>
      cases hname'
      rfl
    | some hd =>
      cases hname' with
      | some hd' => rw [Except.ok.inj (hd.symm.trans hd')]

theorem exists_ofText_iff : (∃ fs, ofText text = .ok fs) ↔ Written text := by
  simp only [ofText_eq_ok, Written, ← FieldDefinition.exists_ofJson_iff]
  apply Iff.intro
  · intro h
    obtain ⟨fs, v, r, ds, hv, hr, hds, -⟩ := h
    exact ⟨v, r, hv, hr, exists_ofEntries_iff.1 ⟨ds, hds⟩⟩
  · intro h
    obtain ⟨v, r, hv, hr, hall⟩ := h
    obtain ⟨ds, hds⟩ := exists_ofEntries_iff.2 hall
    exact ⟨_, v, r, ds, hv, hr, hds, rfl⟩

end FieldSet

/-! ## What the readers accept -/

/-- A reader takes exactly what is written so, and finds a fault in everything else. -/
def ReadsExactly {α β : Type} (read : α → Except SchemaFault β) (written : α → Prop) : Prop :=
  ∀ a, ((∃ b, read a = .ok b) ↔ written a) ∧ ((∃ fault, read a = .error fault) ↔ ¬ written a)

theorem readsExactly_of_iff {α β : Type} {read : α → Except SchemaFault β} {written : α → Prop}
    (h : ∀ a, (∃ b, read a = .ok b) ↔ written a) : ReadsExactly read written := by
  intro a
  refine ⟨h a, ?_⟩
  rw [← h a]
  cases read a <;> simp

/-- **What is read as a type, a definition, or a field set**, and as which. Types have exactly the
members of their kind, and an enumeration has values that convert. Definitions declare a type and
may say that a value is required. Sets have such definitions under all their names. -/
theorem FieldSet.readsExactly_written :
    ReadsExactly FieldType.ofJson FieldType.Written ∧
      ReadsExactly FieldDefinition.ofJson FieldDefinition.Written ∧
      ReadsExactly FieldSet.ofText FieldSet.Written ∧
      (∀ v t, FieldType.ofJson v = .ok t ↔ ∃ σ : TypeSchema, σ.WrittenAs v ∧ σ.type = .ok t) ∧
      (∀ v d, FieldDefinition.ofJson v = .ok d ↔
        ∃ type, FieldDefinition.Declares v d.required type ∧ FieldType.ofJson type = .ok d.type) ∧
      ∀ text fs, FieldSet.ofText text = .ok fs ↔ ∃ v r, Json.parse text = .ok v ∧
        v.record? = some r ∧
          ∀ name, Option.Rel (fun m d => FieldDefinition.ofJson m = .ok d) (r.find? name)
            (fs.find? name) := by
  refine ⟨readsExactly_of_iff fun v => ?_, readsExactly_of_iff fun v => ?_,
    readsExactly_of_iff fun text => ?_, fun v t => ?_, fun v d => ?_, fun text fs => ?_⟩
  · exact FieldType.exists_ofJson_iff
  · exact FieldDefinition.exists_ofJson_iff
  · exact FieldSet.exists_ofText_iff
  · exact FieldType.ofJson_eq_ok_iff
  · exact FieldDefinition.ofJson_eq_ok_iff
  · exact FieldSet.ofText_eq_ok_iff

end Backlog
