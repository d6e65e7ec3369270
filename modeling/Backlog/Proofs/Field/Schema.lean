import Backlog.Proofs.Field.Choices

/-!
# Field sets read back from their text

A field set is written as JSON, with the values of its enumerations as callers see them, and read
again from the text.

**Main statements.** `FieldSet.ofText_text_eq_ok_self`: the set comes back as it was exactly if the
values of its enumerations are read as they were written and no instant among them lies outside the
years of four digits. `FieldSet.exists_ofText_text_iff`: it comes back in some form exactly if the
values can be read and no instant among them lies outside those years.

**Two passes.** Reading starts from objects whose members stand in the order of their names, and
what a type or a definition is read as does not depend on that order
(`FieldType.ofJson_ofRecord`, `Json.Layout.fromJson_ofRecord`).
-/

namespace Backlog

/-! ## Objects -/

namespace Json

theorem record?_ofRecord (r : Record Json) : (ofRecord r).record? = some r :=
  congrArg some r.ofList_entries

theorem Layout.fromJson_ofRecord {σ α : Type} (l : Layout σ α) (ms : List (String × Json)) :
    l.fromJson (ofRecord (Record.ofList ms)) = l.fromJson (.obj ms) := by
  show l.fromObject (Record.ofList ms).entries = l.fromObject ms
  rw [Layout.fromObject, Layout.fromObject, Record.ofList_entries]

theorem readBackMembers?_eq_some {ms ns : List (String × Json)} :
    readBackMembers? ms = some ns ↔
      List.Forall₂ (fun m n => n.1 = m.1 ∧ m.2.readBack? = some n.2) ms ns := by
  induction ms generalizing ns with
  | nil => simp [readBackMembers?, eq_comm]
  | cons m ms ih =>
    rw [readBackMembers?, List.forall₂_cons_left_iff]
    simp only [Option.bind_eq_some_iff, Option.map_eq_some_iff, ih]
    constructor
    · intro h
      obtain ⟨y, hy, ns, hns, rfl⟩ := h
      exact ⟨(m.1, y), ns, ⟨rfl, hy⟩, hns, rfl⟩
    · intro h
      obtain ⟨⟨_, y⟩, ns, ⟨rfl, hy⟩, hns, rfl⟩ := h
      exact ⟨y, hy, ns, hns, rfl⟩

theorem ne_null_of_readBack? {v y : Json} (h : v.readBack? = some y) (hv : v ≠ .null) :
    y ≠ .null := by
  cases v with
  | null => exact absurd rfl hv
  | bool | int | str =>
    cases h
    simp
  | float | arr | obj =>
    obtain ⟨_, -, rfl⟩ := Option.map_eq_some_iff.1 h
    simp [ofRecord]

end Json

/-! ## Tagged types -/

theorem Kind.fromJson_toJson (k : Kind) : Kind.decoder.fromJson k.toJson = .ok k := by
  cases k with
  | scalar s => cases s <;> rfl
  | enum => rfl
  | list => rfl

theorem Json.mapM_any (ws : List Json) : ws.mapM Decoder.any.fromJson = .ok ws := by
  have hpure := List.mapM_pure (m := Except Fault) (l := ws) (f := id)
  rwa [List.map_id] at hpure

namespace FieldType

open Json (Layout Decoder need)

theorem ofPayload_ofRecord (k : Kind) (ms : List (String × Json)) :
    ofPayload k (.ofRecord (Record.ofList ms)) = ofPayload k (.obj ms) := by
  cases k <;> simp only [ofPayload, Layout.fromJson_ofRecord]

theorem ofJson_ofRecord (ms : List (String × Json)) :
    ofJson (.ofRecord (Record.ofList ms)) = ofJson (.obj ms) := by
  have htag : (Json.ofRecord (Record.ofList ms)).member? "kind" = (Json.obj ms).member? "kind" := by
    rw [Json.member?, Json.record?_ofRecord]
    rfl
  rw [ofJson, ofJson, htag]
  simp only [ofPayload_ofRecord]

theorem ofJson_scalar (s : Scalar) :
    ofJson (.obj [("kind", (Kind.scalar s).toJson)]) = .ok (.scalar s) := by
  have hentries : (Record.ofList [("kind", (Kind.scalar s).toJson)]).entries =
      [("kind", (Kind.scalar s).toJson)] := rfl
  have hpayload : Payload.scalarLayout.fromJson (.obj [("kind", (Kind.scalar s).toJson)]) =
      .ok (.scalar s) := by
    simp only [Layout.fromJson, Layout.fromObject, hentries]
    simp [Layout.fieldsOf, Layout.find?, Payload.scalarLayout, Payload.kindMember, Decoder.map,
      Kind.fromJson_toJson, Except.map, need]
  have htag : (Json.obj [("kind", (Kind.scalar s).toJson)]).member? "kind" =
      some (Kind.scalar s).toJson := by
    simp [Json.member?, Json.record?, Record.find?_ofList, Record.lookup]
  rw [ofJson, htag]
  simp only [Kind.fromJson_toJson, ofPayload, hpayload]
  rfl

theorem ofJson_list (s : Scalar) :
    ofJson (.obj [("kind", Kind.list.toJson), ("element_kind", (Kind.scalar s).toJson)]) =
      .ok (.list s) := by
  have hentries : (Record.ofList [("kind", Kind.list.toJson),
      ("element_kind", (Kind.scalar s).toJson)]).entries =
        [("element_kind", (Kind.scalar s).toJson), ("kind", Kind.list.toJson)] := by
    have hkinds : "element_kind" < "kind" := by decide
    simp only [Record.ofList, Record.insert, Record.insertEntry, Record.empty, List.foldl_cons,
      List.foldl_nil, if_pos hkinds]
  have hpayload : Payload.listLayout.fromJson (.obj [("kind", Kind.list.toJson),
      ("element_kind", (Kind.scalar s).toJson)]) = .ok (.scalar s) := by
    simp only [Layout.fromJson, Layout.fromObject, hentries]
    simp [Layout.fieldsOf, Layout.find?, Payload.listLayout, Payload.kindMember,
      Payload.otherMember, Decoder.map, Kind.fromJson_toJson, Except.map, need]
  have htag : (Json.obj [("kind", Kind.list.toJson),
      ("element_kind", (Kind.scalar s).toJson)]).member? "kind" = some Kind.list.toJson := by
    simp [Json.member?, Json.record?, Record.find?_ofList, Record.lookup]
  rw [ofJson, htag]
  simp only [Kind.fromJson_toJson, ofPayload, hpayload]
  rfl

theorem ofJson_enum (s : Scalar) (ws : List Json) :
    ofJson (.obj [("kind", Kind.enum.toJson), ("base_kind", (Kind.scalar s).toJson),
      ("values", .arr ws)]) =
      ((Choices.ofWire s ws).map enum).mapError (.refused .enum) := by
  have hentries : (Record.ofList [("kind", Kind.enum.toJson),
      ("base_kind", (Kind.scalar s).toJson), ("values", .arr ws)]).entries =
        [("base_kind", (Kind.scalar s).toJson), ("kind", Kind.enum.toJson),
          ("values", .arr ws)] := by
    have hkinds : "base_kind" < "kind" := by decide
    have hvalues : ¬ "values" < "base_kind" ∧ ¬ "values" < "kind" := by decide
    have hnames : "values" ≠ "base_kind" ∧ "values" ≠ "kind" := by decide
    simp only [Record.ofList, Record.insert, Record.insertEntry, Record.empty, List.foldl_cons,
      List.foldl_nil, if_pos hkinds, if_neg hvalues.1, if_neg hvalues.2, if_neg hnames.1,
      if_neg hnames.2]
  have hpayload : Payload.enumLayout.fromJson (.obj [("kind", Kind.enum.toJson),
      ("base_kind", (Kind.scalar s).toJson), ("values", .arr ws)]) = .ok (.scalar s, ws) := by
    simp only [Layout.fromJson, Layout.fromObject, hentries]
    simp [Layout.fieldsOf, Layout.find?, Payload.enumLayout, Payload.kindMember,
      Payload.otherMember, Payload.valuesMember, Decoder.map, Kind.fromJson_toJson, Decoder.list,
      Json.mapM_any, Except.map, need]
  have htag : (Json.obj [("kind", Kind.enum.toJson), ("base_kind", (Kind.scalar s).toJson),
      ("values", .arr ws)]).member? "kind" = some Kind.enum.toJson := by
    simp [Json.member?, Json.record?, Record.find?_ofList, Record.lookup]
  rw [ofJson, htag]
  simp only [Kind.fromJson_toJson, ofPayload, hpayload]
  rfl

/-- The second type is what the text of the first is read as. -/
def Redecodes (t t' : FieldType) : Prop := ∃ y, t.toJson.readBack? = some y ∧ ofJson y = .ok t'

theorem redecodes_scalar_iff {s : Scalar} {t' : FieldType} :
    (scalar s).Redecodes t' ↔ scalar s = t' := by
  have hread : (scalar s).toJson.readBack? =
      some (.ofRecord (.ofList [("kind", (Kind.scalar s).toJson)])) := rfl
  simp only [Redecodes, hread, Option.some.injEq, exists_eq_left', ofJson_ofRecord, ofJson_scalar,
    Except.ok.injEq]

theorem redecodes_list_iff {s : Scalar} {t' : FieldType} :
    (list s).Redecodes t' ↔ list s = t' := by
  have hread : (list s).toJson.readBack? = some (.ofRecord (.ofList
      [("kind", Kind.list.toJson), ("element_kind", (Kind.scalar s).toJson)])) := rfl
  simp only [Redecodes, hread, Option.some.injEq, exists_eq_left', ofJson_ofRecord, ofJson_list,
    Except.ok.injEq]

theorem redecodes_enum_iff {c : Choices} {t' : FieldType} :
    (enum c).Redecodes t' ↔ ∃ ws c', Json.readBackItems? (wireValues c) = some ws ∧
      Choices.ofWire c.base ws = .ok c' ∧ enum c' = t' := by
  have hread : (enum c).toJson.readBack? = (Json.readBackItems? (wireValues c)).map fun ws =>
      .ofRecord (.ofList [("kind", Kind.enum.toJson), ("base_kind", (Kind.scalar c.base).toJson),
        ("values", .arr ws)]) := by
    simp only [toJson, Json.readBack?, Json.readBackMembers?, Kind.toJson]
    cases Json.readBackItems? (wireValues c) <;> rfl
  rw [Redecodes, hread]
  constructor
  · intro h
    obtain ⟨y, hy, hok⟩ := h
    obtain ⟨ws, hws, rfl⟩ := Option.map_eq_some_iff.1 hy
    rw [ofJson_ofRecord, ofJson_enum, mapError_eq_ok, map_eq_ok] at hok
    obtain ⟨c', hc', rfl⟩ := hok
    exact ⟨ws, c', hws, hc', rfl⟩
  · intro h
    obtain ⟨ws, c', hws, hc', rfl⟩ := h
    refine ⟨_, Option.map_eq_some_iff.2 ⟨ws, hws, rfl⟩, ?_⟩
    rw [ofJson_ofRecord, ofJson_enum, mapError_eq_ok, map_eq_ok]
    exact ⟨c', hc', rfl⟩

/-- The values of the type, where it is an enumeration, have a property. -/
def ChoicesHave (P : Choices → Prop) (t : FieldType) : Prop := ∀ c, t = enum c → P c

theorem redecodes_self_iff (t : FieldType) :
    t.Redecodes t ↔ t.ChoicesHave Choices.ReadAsWritten ∧ t.ChoicesHave Choices.InPlainYears := by
  cases t with
  | scalar s => simp [redecodes_scalar_iff, ChoicesHave]
  | list s => simp [redecodes_list_iff, ChoicesHave]
  | enum c =>
    simp only [redecodes_enum_iff, ChoicesHave, enum.injEq, forall_eq']
    constructor
    · intro h
      obtain ⟨ws, c', hws, hc', rfl⟩ := h
      exact (Choices.ofWire_shown_iff hws).1 hc'
    · intro h
      have hcan : c.CanBeRead := fun v hv => ⟨v, h.1 v hv⟩
      obtain ⟨ws, hws⟩ := Choices.exists_readBackItems?_iff.2 hcan
      exact ⟨ws, c, hws, (Choices.ofWire_shown_iff hws).2 h, rfl⟩

theorem exists_redecodes_iff (t : FieldType) :
    (∃ t', t.Redecodes t') ↔
      t.ChoicesHave Choices.CanBeRead ∧ t.ChoicesHave Choices.InPlainYears := by
  cases t with
  | scalar s => simp [redecodes_scalar_iff, ChoicesHave]
  | list s => simp [redecodes_list_iff, ChoicesHave]
  | enum c =>
    simp only [redecodes_enum_iff, ChoicesHave, enum.injEq, forall_eq']
    constructor
    · intro h
      obtain ⟨t', ws, c', hws, hc', -⟩ := h
      exact ⟨Choices.exists_readBackItems?_iff.1 ⟨ws, hws⟩,
        (Choices.exists_ofWire_shown_iff hws).1 ⟨c', hc'⟩⟩
    · intro h
      obtain ⟨ws, hws⟩ := Choices.exists_readBackItems?_iff.2 h.1
      obtain ⟨c', hc'⟩ := (Choices.exists_ofWire_shown_iff hws).2 h.2
      exact ⟨enum c', ws, c', hws, hc', rfl⟩

end FieldType

/-! ## Definitions -/

namespace FieldDefinition

open Json (Layout Decoder)

/-- The second definition is what the text of the first is read as. -/
def Redecodes (d d' : FieldDefinition) : Prop :=
  ∃ y, d.toJson.readBack? = some y ∧ ofJson y = .ok d'

theorem ofJson_ofRecord (ms : List (String × Json)) :
    ofJson (.ofRecord (Record.ofList ms)) = ofJson (.obj ms) := by
  rw [ofJson, ofJson, Layout.fromJson_ofRecord]

theorem ofJson_members (b : Bool) {v : Json} (hv : v ≠ .null) :
    ofJson (.obj [("required", .bool b), ("type", v)]) =
      (FieldType.ofJson v).map fun t => ⟨b, t⟩ := by
  have hentries : (Record.ofList [("required", Json.bool b), ("type", v)]).entries =
      [("required", .bool b), ("type", v)] := by
    have hsorted : ["required", "type"].Pairwise (· < ·) := by decide
    exact Record.entries_ofList hsorted
  have htype : (Decoder.optional .any).fromJson v = .ok (some v) := by
    cases v <;> first | rfl | exact absurd rfl hv
  have hread : Envelope.layout.fromJson (.obj [("required", .bool b), ("type", v)]) =
      .ok ⟨some b, some (some v)⟩ := by
    simp only [Layout.fromJson, Layout.fromObject, hentries]
    simp [Layout.fieldsOf, Layout.find?, Envelope.layout, Decoder.map, Decoder.boolean,
      Decoder.scalar, htype, Except.map]
  rw [ofJson, hread]
  rfl

theorem redecodes_iff {d d' : FieldDefinition} :
    d.Redecodes d' ↔ d'.required = d.required ∧ d.type.Redecodes d'.type := by
  have hread : d.toJson.readBack? = d.type.toJson.readBack?.map fun y =>
      .ofRecord (.ofList [("required", .bool d.required), ("type", y)]) := by
    simp only [toJson, Json.readBack?, Json.readBackMembers?]
    cases d.type.toJson.readBack? <;> rfl
  have hne : ∀ y, d.type.toJson.readBack? = some y → y ≠ .null := by
    intro y hy
    refine Json.ne_null_of_readBack? hy ?_
    cases d.type <;> simp [FieldType.toJson]
  rw [Redecodes, hread]
  constructor
  · intro h
    obtain ⟨_, hread, hok⟩ := h
    obtain ⟨y, hy, rfl⟩ := Option.map_eq_some_iff.1 hread
    rw [ofJson_ofRecord, ofJson_members _ (hne y hy), map_eq_ok] at hok
    obtain ⟨t, ht, rfl⟩ := hok
    exact ⟨rfl, y, hy, ht⟩
  · intro h
    obtain ⟨hrequired, y, hy, ht⟩ := h
    refine ⟨_, Option.map_eq_some_iff.2 ⟨y, hy, rfl⟩, ?_⟩
    rw [ofJson_ofRecord, ofJson_members _ (hne y hy), map_eq_ok]
    exact ⟨d'.type, ht, by rw [← hrequired]⟩

theorem redecodes_self_iff (d : FieldDefinition) : d.Redecodes d ↔
    d.type.ChoicesHave Choices.ReadAsWritten ∧ d.type.ChoicesHave Choices.InPlainYears := by
  rw [redecodes_iff, and_iff_right rfl, FieldType.redecodes_self_iff]

theorem exists_redecodes_iff (d : FieldDefinition) : (∃ d', d.Redecodes d') ↔
    d.type.ChoicesHave Choices.CanBeRead ∧ d.type.ChoicesHave Choices.InPlainYears := by
  rw [← FieldType.exists_redecodes_iff]
  constructor
  · intro h
    obtain ⟨d', hd'⟩ := h
    exact ⟨d'.type, (redecodes_iff.1 hd').2⟩
  · intro h
    obtain ⟨t', ht'⟩ := h
    exact ⟨⟨d.required, t'⟩, redecodes_iff.2 ⟨rfl, ht'⟩⟩

end FieldDefinition

/-! ## Field sets -/

namespace Scalar

variable {s : Scalar} {x w : Json}

/-- Values are shown without arrays and objects. -/
theorem depth_of_toWire (h : s.toWire x = .ok w) : w.depth = 0 := by
  cases s with
  | string | user | url | workItem | integer | duration | float =>
    obtain ⟨_, -, rfl⟩ := require_eq_ok.1 h
    rfl
  | instant =>
    rw [toWire, instantToWire.eq_def] at h
    split at h
    · cases h
    · split at h
      · cases h
        rfl
      · cases h

end Scalar

theorem Choices.depth_wireValues {c : Choices} {w : Json} (h : w ∈ FieldType.wireValues c) :
    w.depth = 0 := by
  obtain ⟨v, -, hw⟩ := exists_of_mem_right (forall₂_wireValues c) h
  exact Scalar.depth_of_toWire hw

theorem Choices.printable_wireValues {c : Choices} {w : Json} (h : w ∈ FieldType.wireValues c) :
    w.Printable := by
  obtain ⟨v, -, hw⟩ := exists_of_mem_right (forall₂_wireValues c) h
  exact (Scalar.wellFormed_of_toWire hw).printable

theorem FieldType.printable_toJson (t : FieldType) : t.toJson.Printable := by
  cases t with
  | scalar s => simp [toJson, Json.Printable, Json.PrintableMembers, Kind.toJson]
  | list s => simp [toJson, Json.Printable, Json.PrintableMembers, Kind.toJson]
  | enum c =>
    simp only [toJson, Json.Printable, Json.PrintableMembers, Kind.toJson, true_and, and_true]
    exact Json.printableItems_iff.2 fun w => Choices.printable_wireValues

theorem FieldType.depth_toJson (t : FieldType) : t.toJson.depth ≤ 2 := by
  cases t with
  | scalar s => simp [toJson, Json.depth, Json.depth.depthMembers, Kind.toJson]
  | list s => simp [toJson, Json.depth, Json.depth.depthMembers, Kind.toJson]
  | enum c =>
    have hvalues : Json.depth.depthItems (wireValues c) ≤ 0 :=
      Json.depthItems_le_iff.2 fun w hw => Nat.le_of_eq (Choices.depth_wireValues hw)
    simp only [toJson, Json.depth, Json.depth.depthMembers, Kind.toJson]
    omega

namespace FieldSet

open FieldDefinition (Redecodes)

variable {fs gs : FieldSet}

theorem printable_toJson (fs : FieldSet) : fs.toJson.Printable := by
  refine Json.printableMembers_iff.2 fun m hm => ?_
  obtain ⟨e, -, rfl⟩ := List.mem_map.1 hm
  simp [FieldDefinition.toJson, Json.Printable, Json.PrintableMembers, e.2.type.printable_toJson]

theorem depth_toJson (fs : FieldSet) : fs.toJson.depth ≤ Json.depthLimit := by
  have hmembers : Json.depth.depthMembers (fs.map FieldDefinition.toJson).entries ≤ 3 := by
    refine Json.depthMembers_le_iff.2 fun m hm => ?_
    obtain ⟨e, -, rfl⟩ := List.mem_map.1 hm
    have htype := e.2.type.depth_toJson
    simp only [FieldDefinition.toJson, Json.depth, Json.depth.depthMembers]
    omega
  rw [toJson, Json.ofRecord, Json.depth, Json.depthLimit]
  omega

/-- Definitions are read exactly if each of them is. -/
theorem ofEntries_eq_ok {ms : List (String × Json)} {ds : List (String × FieldDefinition)} :
    ofEntries ms = .ok ds ↔
      List.Forall₂ (fun m d => d.1 = m.1 ∧ FieldDefinition.ofJson m.2 = .ok d.2) ms ds := by
  induction ms generalizing ds with
  | nil => simp [ofEntries, eq_comm]
  | cons m ms ih =>
    rw [ofEntries, List.forall₂_cons_left_iff]
    cases hm : FieldDefinition.ofJson m.2 with
    | error f => simp
    | ok d =>
      simp only [map_eq_ok, ih, Except.ok.injEq]
      constructor
      · intro h
        obtain ⟨ds, hds, rfl⟩ := h
        exact ⟨(m.1, d), ds, ⟨rfl, rfl⟩, hds, rfl⟩
      · intro h
        obtain ⟨⟨_, _⟩, ds, ⟨rfl, rfl⟩, hds, rfl⟩ := h
        exact ⟨ds, hds, rfl⟩

theorem names_of_forall₂ {α β : Type} {R : String × α → String × β → Prop}
    {l : List (String × α)} {m : List (String × β)} (h : List.Forall₂ R l m)
    (hR : ∀ e e', R e e' → e'.1 = e.1) : m.map Prod.fst = l.map Prod.fst := by
  induction h with
  | nil => rfl
  | cons he _ ih => rw [List.map_cons, List.map_cons, hR _ _ he, ih]

/-- The text of a set is read definition by definition. -/
theorem ofText_text_eq_ok : ofText fs.text = .ok gs ↔
    List.Forall₂ (fun e e' => e'.1 = e.1 ∧ e.2.Redecodes e'.2) fs.entries gs.entries := by
  have hparse : ∀ w, Json.parse fs.text = .ok w ↔ ∃ ns : List (String × Json),
      List.Forall₂ (fun e n => n.1 = e.1 ∧ e.2.toJson.readBack? = some n.2) fs.entries ns ∧
        Json.ofRecord (Record.ofList ns) = w := by
    intro w
    rw [text, Json.parse_text_eq_ok fs.printable_toJson, and_iff_right fs.depth_toJson, toJson,
      Json.ofRecord, Json.readBack?, Option.map_eq_some_iff]
    simp only [Record.map, Json.readBackMembers?_eq_some, List.forall₂_map_left_iff]
  have hsplit : List.Forall₂ (fun e e' => e'.1 = e.1 ∧ e.2.Redecodes e'.2) fs.entries gs.entries ↔
      ∃ ns : List (String × Json),
        List.Forall₂ (fun e n => n.1 = e.1 ∧ e.2.toJson.readBack? = some n.2) fs.entries ns ∧
          ofEntries ns = .ok gs.entries := by
    have hone : ∀ (e e' : String × FieldDefinition), (e'.1 = e.1 ∧ e.2.Redecodes e'.2) ↔
        ∃ n : String × Json, (n.1 = e.1 ∧ e.2.toJson.readBack? = some n.2) ∧
          e'.1 = n.1 ∧ FieldDefinition.ofJson n.2 = .ok e'.2 := by
      intro e e'
      constructor
      · intro h
        obtain ⟨hname, y, hy, hd⟩ := h
        exact ⟨(e.1, y), ⟨rfl, hy⟩, hname, hd⟩
      · intro h
        obtain ⟨⟨_, y⟩, ⟨rfl, hy⟩, hname, hd⟩ := h
        exact ⟨hname, y, hy, hd⟩
    simp only [hone, forall₂_comp_iff, ofEntries_eq_ok]
  have hentries : ∀ {ns : List (String × Json)},
      List.Forall₂ (fun e n => n.1 = e.1 ∧ e.2.toJson.readBack? = some n.2) fs.entries ns →
        (Record.ofList ns).entries = ns := by
    intro ns hns
    refine Record.entries_ofList ?_
    rw [names_of_forall₂ hns fun _ _ h => h.1]
    exact fs.sorted
  rw [hsplit, ofText.eq_def]
  constructor
  · intro h
    split at h
    · cases h
    next v hv =>
      obtain ⟨ns, hns, rfl⟩ := (hparse v).1 hv
      rw [Json.record?_ofRecord] at h
      obtain ⟨ds, hds, rfl⟩ := map_eq_ok.1 h
      rw [hentries hns] at hds
      refine ⟨ns, hns, ?_⟩
      rw [Record.entries_ofList]
      · exact hds
      · rw [names_of_forall₂ (ofEntries_eq_ok.1 hds) fun _ _ h => h.1,
          names_of_forall₂ hns fun _ _ h => h.1]
        exact fs.sorted
  · intro h
    obtain ⟨ns, hns, hds⟩ := h
    rw [(hparse _).2 ⟨ns, hns, rfl⟩]
    simp only [Json.record?_ofRecord, hentries hns, map_eq_ok]
    exact ⟨gs.entries, hds, gs.ofList_entries⟩

/-- The values of every enumeration in the set have a property. -/
def ChoicesHave (P : Choices → Prop) (fs : FieldSet) : Prop :=
  ∀ name d, fs.find? name = some d → d.type.ChoicesHave P

theorem choicesHave_iff {P : Choices → Prop} :
    fs.ChoicesHave P ↔ ∀ e ∈ fs.entries, e.2.type.ChoicesHave P := by
  constructor
  · intro h e he
    exact h e.1 e.2 (Record.mem_entries_iff.1 he)
  · intro h name d hd
    exact h (name, d) (Record.mem_entries_iff.2 hd)

theorem choicesHave_and {P Q : Choices → Prop} :
    (∀ e ∈ fs.entries, e.2.type.ChoicesHave P ∧ e.2.type.ChoicesHave Q) ↔
      fs.ChoicesHave P ∧ fs.ChoicesHave Q := by
  rw [choicesHave_iff, choicesHave_iff, ← forall₂_and]

/-- A set comes back from its text as it was exactly if the values of its enumerations are read as
they were written and no instant among them lies outside the years of four digits. -/
theorem ofText_text_eq_ok_self : ofText fs.text = .ok fs ↔
    fs.ChoicesHave Choices.ReadAsWritten ∧ fs.ChoicesHave Choices.InPlainYears := by
  rw [ofText_text_eq_ok, List.forall₂_same, ← choicesHave_and]
  simp only [true_and, FieldDefinition.redecodes_self_iff]

/-- The text of a set is read exactly if the values of its enumerations can be read and no instant
among them lies outside the years of four digits. -/
theorem exists_ofText_text_iff : (∃ gs, ofText fs.text = .ok gs) ↔
    fs.ChoicesHave Choices.CanBeRead ∧ fs.ChoicesHave Choices.InPlainYears := by
  rw [← choicesHave_and]
  simp only [← FieldDefinition.exists_redecodes_iff, ofText_text_eq_ok]
  constructor
  · intro h e he
    obtain ⟨gs, hgs⟩ := h
    obtain ⟨e', -, -, hd⟩ := exists_of_mem_left hgs he
    exact ⟨e'.2, hd⟩
  · intro h
    have hall : ∀ e ∈ fs.entries, ∃ e' : String × FieldDefinition,
        e'.1 = e.1 ∧ e.2.Redecodes e'.2 := by
      intro e he
      obtain ⟨d', hd'⟩ := h e he
      exact ⟨(e.1, d'), rfl, hd'⟩
    obtain ⟨ds, hds⟩ := exists_forall₂ hall
    have hsorted : (ds.map Prod.fst).Pairwise (· < ·) := by
      rw [names_of_forall₂ hds fun _ _ h => h.1]
      exact fs.sorted
    exact ⟨⟨ds, hsorted⟩, hds⟩

/-- **Field sets come back from their text.** Where the text of every value in its enumerations is
read as that value, a set comes back as it was if no instant among them lies outside the years of
four digits. Otherwise its text is refused. -/
theorem ofText_text_iff_inPlainYears (h : fs.ChoicesHave Choices.ReadAsWritten) :
    (ofText fs.text = .ok fs ↔ fs.ChoicesHave Choices.InPlainYears) ∧
      (¬ fs.ChoicesHave Choices.InPlainYears → ∃ fault, ofText fs.text = .error fault) := by
  refine ⟨by rw [ofText_text_eq_ok_self, and_iff_right h], fun hyears => ?_⟩
  cases hread : ofText fs.text with
  | error fault => exact ⟨fault, rfl⟩
  | ok gs => exact absurd (exists_ofText_text_iff.1 ⟨gs, hread⟩).2 hyears

end FieldSet

/-! ## Equality -/

namespace Json

mutual

theorem same_self (v : Json) : v.same v = true := by
  cases v with
  | null => rfl
  | bool | int | str => simp [same]
  | float x => simp [same, Binary64.same]
  | arr xs => exact sameItems_self xs
  | obj ms => exact sameMembers_self ms

theorem sameItems_self (xs : List Json) : sameItems xs xs = true := by
  cases xs with
  | nil => rfl
  | cons x xs => rw [sameItems, same_self x, sameItems_self xs, Bool.and_self]

theorem sameMembers_self (ms : List (String × Json)) : sameMembers ms ms = true := by
  cases ms with
  | nil => rfl
  | cons m ms =>
    rw [sameMembers, same_self m.2, sameMembers_self ms, beq_self_eq_true, Bool.and_self,
      Bool.and_self]

end

end Json

theorem FieldType.same_self (t : FieldType) : t.same t = true := by
  cases t <;> simp [same, Json.sameItems_self]

theorem FieldDefinition.same_self (d : FieldDefinition) : d.same d = true := by
  simp [same, d.type.same_self]

theorem FieldSet.same_self (fs : FieldSet) : fs.same fs = true := by
  have hpairs : ∀ l : List (String × FieldDefinition),
      (l.zip l).all (fun e => e.1.2.same e.2.2) = true := by
    intro l
    induction l with
    | nil => rfl
    | cons e l ih => simp [FieldDefinition.same_self, ih]
  simp [same, hpairs]

/-! ## A set that does not come back -/

/-- The first hour of the year 10000, in microseconds. West of universal time it is still the last
hour of 9999, and is written with four digits there. -/
def lateInstant : Int := 253402304399000000

/-- The enumeration of one instant outside the years of four digits. -/
def lateChoices : Choices where
  base := .instant
  values := [.int lateInstant]
  nonempty := by simp
  distinct := List.pairwise_singleton ..
  stored := by
    intro v hv
    refine ⟨.str "9999-12-31T23:59:59-01:00", ?_⟩
    rw [List.mem_singleton.1 hv]
    rfl

def lateSet : FieldSet := Record.empty.insert "x" ⟨false, .enum lateChoices⟩

theorem eq_of_find?_lateSet {name : String} {d : FieldDefinition}
    (h : lateSet.find? name = some d) : d = ⟨false, .enum lateChoices⟩ := by
  rw [lateSet, Record.find?_insert] at h
  split at h
  · cases h
    rfl
  · cases h

theorem readAsWritten_lateSet : lateSet.ChoicesHave Choices.ReadAsWritten := by
  intro name d hd c hc
  obtain rfl := eq_of_find?_lateSet hd
  cases hc
  intro v hv
  obtain rfl := List.mem_singleton.1 hv
  rfl

theorem not_inPlainYears_lateSet : ¬ lateSet.ChoicesHave Choices.InPlainYears := by
  intro h
  have hplain : Moment.InPlainYears lateInstant :=
    h "x" ⟨false, .enum lateChoices⟩ (by rw [lateSet, Record.find?_insert, if_pos rfl]) lateChoices
      rfl (.int lateInstant) (List.mem_singleton_self _) lateInstant (List.mem_singleton_self _)
  exact absurd hplain (by decide)

theorem FieldSet.ofText_text_lateSet :
    lateSet.ChoicesHave Choices.ReadAsWritten ∧
      ∃ fault, FieldSet.ofText lateSet.text = .error fault :=
  ⟨readAsWritten_lateSet,
    (FieldSet.ofText_text_iff_inPlainYears readAsWritten_lateSet).2 not_inPlainYears_lateSet⟩

end Backlog
