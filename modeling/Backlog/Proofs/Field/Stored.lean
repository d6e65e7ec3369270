import Backlog.Proofs.Field.Values
import Backlog.Proofs.Json.RoundTrip

/-!
# Stored records

A record that a field set keeps has every required field and every declared value in the shape of
its type (`FieldSet.Keeps`). Converting to storage gives such a record, and such a record can be
shown.

**After printing and reading.** A kept record comes back with other floating numbers in it
(`Record.Rereads`). It can then still be shown exactly if the enumerations of floating numbers
still allow what they hold (`FieldSet.Keeps.toWire_reread_iff`). Nothing else in it can have changed
its shape.
-/

namespace Backlog

/-! ## Well-formed values -/

namespace Json

theorem wellFormedItems_iff {xs : List Json} : WellFormedItems xs ↔ ∀ x ∈ xs, x.WellFormed := by
  induction xs with
  | nil => simp [WellFormedItems]
  | cons x xs ih => simp [WellFormedItems, ih]

theorem wellFormedMembers_iff {ms : List (String × Json)} :
    WellFormedMembers ms ↔ ∀ e ∈ ms, e.2.WellFormed := by
  induction ms with
  | nil => simp [WellFormedMembers]
  | cons m ms ih => simp [WellFormedMembers, ih]

theorem wellFormed_of_isInt64 {n : Int} (h : Decimal.IsInt64 n) : (Json.int n).WellFormed := by
  unfold Decimal.IsInt64 at h
  rw [WellFormed]
  omega

end Json

/-- Every value of the record is well formed. -/
def Record.WellFormed (r : Record Json) : Prop := ∀ name v, r.find? name = some v → v.WellFormed

theorem Record.wellFormed_ofRecord {r : Record Json} :
    (Json.ofRecord r).WellFormed ↔ r.WellFormed := by
  rw [Json.ofRecord, Json.WellFormed, Json.wellFormedMembers_iff, and_iff_right r.sorted]
  constructor
  · intro h name v hv
    exact h (name, v) (mem_entries_iff.2 hv)
  · rintro h ⟨name, v⟩ hv
    exact h name v (mem_entries_iff.1 hv)

theorem Record.wellFormed_empty : (Record.empty : Record Json).WellFormed := by
  intro name v hv
  cases hv

theorem Record.WellFormed.insert {r : Record Json} (h : r.WellFormed) (name : String) {v : Json}
    (hv : v.WellFormed) : (r.insert name v).WellFormed := by
  intro other w hw
  rw [find?_insert] at hw
  split at hw
  · cases hw
    exact hv
  · exact h other w hw

theorem Record.WellFormed.erase {r : Record Json} (h : r.WellFormed) (name : String) :
    (r.erase name).WellFormed := by
  intro other w hw
  rw [find?_erase] at hw
  split at hw
  · cases hw
  · exact h other w hw

/-! ## Conversion gives well-formed values -/

namespace Scalar

variable {s : Scalar} {v x : Json}

theorem Stores.wellFormed (h : s.Stores x) : x.WellFormed := by
  cases s with
  | string | user | url | workItem | float =>
    obtain ⟨_, rfl⟩ := h
    trivial
  | integer | duration =>
    obtain ⟨_, rfl, hn⟩ := h
    exact Json.wellFormed_of_isInt64 hn
  | instant =>
    obtain ⟨_, _, rfl, hn, -⟩ := h
    exact Json.wellFormed_of_isInt64 hn

theorem wellFormed_of_toWire (h : s.toWire v = .ok x) : x.WellFormed := by
  cases s with
  | string | user | url | workItem | float =>
    obtain ⟨_, -, rfl⟩ := require_eq_ok.1 h
    trivial
  | integer | duration =>
    obtain ⟨_, hn, rfl⟩ := require_eq_ok.1 h
    exact Json.wellFormed_of_isInt64 (Json.int64?_eq_some.1 hn).2
  | instant =>
    rw [toWire, instantToWire.eq_def] at h
    split at h
    · cases h
    · split at h
      · cases h
        trivial
      · cases h

end Scalar

namespace FieldType

variable {t : FieldType} {v x : Json}

theorem Stores.wellFormed (h : t.Stores x) : x.WellFormed := by
  cases t with
  | scalar s => exact Scalar.Stores.wellFormed h
  | enum c => exact Scalar.Stores.wellFormed h.1
  | list s =>
    obtain ⟨xs, rfl, hxs⟩ := h
    exact Json.wellFormedItems_iff.2 fun x hx => Scalar.Stores.wellFormed (hxs x hx)

theorem wellFormed_of_convert {dir : Direction} (h : t.convert dir v = .ok x) (hv : v ≠ .null) :
    x.WellFormed := by
  cases dir with
  | toStorage => exact (stores_of_toStorage h hv).wellFormed
  | toWire =>
    have h : t.toWire v = .ok x := h
    rw [toWire_of_ne_null hv] at h
    cases t with
    | scalar s => exact Scalar.wellFormed_of_toWire h
    | enum c => exact Scalar.wellFormed_of_toWire (Choices.toWire_eq_ok.1 h).2
    | list s =>
      obtain ⟨xs, ys, -, rfl, hys⟩ := convertList_eq_ok.1 h
      refine Json.wellFormedItems_iff.2 fun y hy => ?_
      obtain ⟨x, -, hxy⟩ := exists_of_mem_right hys hy
      exact Scalar.wellFormed_of_toWire hxy

end FieldType

namespace FieldSet

variable {fs : FieldSet} {dir : Direction} {input out stored : Record Json}

theorem wellFormed_of_convert (h : fs.convert dir input = .ok out) (hinput : input.WellFormed) :
    out.WellFormed := by
  intro name v hv
  have hname := convert_eq_ok.1 h name
  cases hd : fs.find? name with
  | none =>
    simp only [hd] at hname
    exact hinput name v (hname ▸ hv)
  | some d =>
    simp only [hd] at hname
    obtain ⟨u, hu, hout⟩ := hname
    rw [hv] at hout
    rcases FieldDefinition.convert_eq_ok.1 hu with ⟨-, -, rfl⟩ | ⟨x, -, hx, hconvert⟩
    · cases hout
    · split at hout
      · cases hout
      · cases hout
        exact FieldType.wellFormed_of_convert hconvert hx

/-! ## Kept records -/

/-- Required fields are there, and every declared field that is there has the shape of its
type. -/
def Keeps (fs : FieldSet) (stored : Record Json) : Prop :=
  ∀ name d, fs.find? name = some d → match stored.find? name with
    | none => d.required = false
    | some v => d.type.Stores v

theorem keeps_of_toStorage (h : fs.toStorage input = .ok stored) : fs.Keeps stored := by
  intro name d hd
  have hname := convert_eq_ok.1 h name
  simp only [hd] at hname
  obtain ⟨v, hv, hstored⟩ := hname
  rw [hstored]
  rcases FieldDefinition.convert_eq_ok.1 hv with ⟨-, hoptional, rfl⟩ | ⟨x, -, hx, hconvert⟩
  · exact hoptional
  · have hstores := FieldType.stores_of_toStorage hconvert hx
    rw [Json.isNull_eq_false.2 hstores.ne_null]
    exact hstores

/-- A record can be shown if its required fields are there and each declared value can be
shown. -/
theorem exists_toWire_iff : (∃ w, fs.toWire stored = .ok w) ↔
    ∀ name d, fs.find? name = some d →
      ∃ v, d.convert .toWire name (stored.find? name) = .ok v := by
  constructor
  · rintro ⟨w, hw⟩ name d hd
    have hname := convert_eq_ok.1 hw name
    simp only [hd] at hname
    obtain ⟨v, hv, -⟩ := hname
    exact ⟨v, hv⟩
  · intro h
    have hall : ∀ e ∈ fs.entries, ∃ v, e.2.convert .toWire e.1 (stored.find? e.1) = .ok v :=
      fun e he => h e.1 e.2 (Record.mem_entries_iff.1 he)
    obtain ⟨vs, hvs⟩ := exists_convertDeclared hall
    exact ⟨_, convert_eq_ok.2 (converts_of_convertDeclared hvs)⟩

/-- What is kept can be shown. -/
theorem Keeps.toWire (h : fs.Keeps stored) : ∃ w, fs.toWire stored = .ok w := by
  refine exists_toWire_iff.2 fun name d hd => ?_
  have hname := h name d hd
  cases hv : stored.find? name with
  | none =>
    rw [hv] at hname
    exact ⟨.null, FieldDefinition.convert_eq_ok.2 (.inl ⟨.inl rfl, hname, rfl⟩)⟩
  | some v =>
    rw [hv] at hname
    obtain ⟨w, hw, -⟩ := FieldType.Stores.toWire hname
    exact ⟨w, FieldDefinition.convert_eq_ok.2 (.inr ⟨v, rfl, hname.ne_null, hw⟩)⟩

end FieldSet

/-! ## Records read back -/

/-- The second record is what the text of the first is read as. -/
def Record.Rereads (stored held : Record Json) : Prop :=
  Json.rereadMembers? stored.entries = some held.entries

theorem Json.lookup_rereadMembers? {ms ns : List (String × Json)} (name : String)
    (h : rereadMembers? ms = some ns) :
    Record.lookup name ns = (Record.lookup name ms).bind reread? := by
  induction ms generalizing ns with
  | nil =>
    cases h
    rfl
  | cons m ms ih =>
    obtain ⟨k, x⟩ := m
    obtain ⟨y, hy, h⟩ := Option.bind_eq_some_iff.1 h
    obtain ⟨ns, hns, rfl⟩ := Option.map_eq_some_iff.1 h
    rw [Record.lookup, Record.lookup]
    split
    · exact hy.symm
    · exact ih hns

theorem Record.Rereads.find? {stored held : Record Json} (h : stored.Rereads held) (name : String) :
    held.find? name = (stored.find? name).bind Json.reread? :=
  Json.lookup_rereadMembers? name h

theorem Record.Rereads.exists_reread {stored held : Record Json} (h : stored.Rereads held)
    {name : String} {v : Json} (hv : stored.find? name = some v) :
    ∃ y, v.reread? = some y ∧ held.find? name = some y := by
  have hmem := mem_entries_iff.2 hv
  have hnames := Json.names_rereadMembers? h
  have hheld : name ∈ held.names := by
    rw [Record.names, hnames]
    exact List.mem_map.2 ⟨_, hmem, rfl⟩
  obtain ⟨y, hy⟩ := Option.isSome_iff_exists.1 (mem_names_iff.1 hheld)
  have hfind := h.find? name
  rw [hy, hv, Option.bind_some] at hfind
  exact ⟨y, hfind.symm, hy⟩

/-- The text of a well-formed record is read exactly if it does not nest too deep and its floating
numbers can be read. -/
theorem Record.decodeText_eq_ok {stored held : Record Json} (h : stored.WellFormed) :
    (Json.Decoder.record .any).decodeText (Json.ofRecord stored).text = .ok held ↔
      (Json.ofRecord stored).depth ≤ Json.depthLimit ∧ stored.Rereads held := by
  obtain ⟨cs, hcs, hlen, hfirst⟩ := Json.obj_chars stored.entries []
  rw [List.append_nil] at hcs
  have hmembers : ∀ ns rest, Json.membersFrom (Json.value 126) (cs.length + 1) false
      (Json.membersChars stored.entries ++ ['\x7d']) = .ok (ns, rest) ↔
        Json.depth.depthMembers stored.entries ≤ 126 ∧
          Json.rereadMembers? stored.entries = some ns ∧ rest = [] := fun _ _ => by
    have hms := (wellFormed_ofRecord.2 h).2
    rw [← hms.readBackMembers?_eq]
    exact Json.members_chars stored.entries hms.printable (Nat.lt_succ_of_le hlen)
  have hread : (Json.Decoder.record .any).decodeText (Json.ofRecord stored).text = (do
      let read ← Json.members (Json.value 126) cs
      Json.finish read.2
      return Record.ofList read.1) := by
    have hspace : Json.isSpace '\x7b' = false := by decide
    rw [Json.Decoder.decodeText, Json.readAll, Json.text, String.toList_ofList, Json.ofRecord, hcs]
    simp only [Json.Decoder.record, Json.skipSpace_cons hspace]
    show ((Json.members (Json.value 126) cs >>= _) >>= _) = _
    cases Json.members (Json.value 126) cs <;> rfl
  rw [hread, Json.members, hfirst, Json.ofRecord, Json.depth, bind_eq_ok]
  constructor
  · intro hread
    obtain ⟨⟨ns, rest⟩, hparsed, hdone⟩ := hread
    obtain ⟨hdepth, hns, rfl⟩ := (hmembers _ _).1 hparsed
    cases hdone
    refine ⟨by rw [Json.depthLimit]; omega, ?_⟩
    rw [Rereads, Json.entries_ofList_reread stored.sorted hns]
    exact hns
  · intro hrereads
    obtain ⟨hdepth, hrereads⟩ := hrereads
    rw [Json.depthLimit] at hdepth
    refine ⟨(held.entries, []), (hmembers _ _).2 ⟨by omega, hrereads, rfl⟩, ?_⟩
    show Except.ok (Record.ofList held.entries) = .ok held
    rw [Record.ofList_entries]

theorem Record.Rereads.wellFormed {stored held : Record Json} (h : stored.Rereads held)
    (hstored : stored.WellFormed) : held.WellFormed := by
  have hobj : (Json.ofRecord stored).reread? = some (Json.ofRecord held) :=
    congrArg (Option.map Json.obj) h
  exact wellFormed_ofRecord.1 ((wellFormed_ofRecord.2 hstored).reread hobj)

theorem Json.mem_rereadItems? {xs ys : List Json} (h : rereadItems? xs = some ys) {y : Json}
    (hy : y ∈ ys) : ∃ x ∈ xs, x.reread? = some y := by
  induction xs generalizing ys with
  | nil =>
    cases h
    cases hy
  | cons x xs ih =>
    obtain ⟨z, hz, h⟩ := Option.bind_eq_some_iff.1 h
    obtain ⟨zs, hzs, rfl⟩ := Option.map_eq_some_iff.1 h
    rcases List.mem_cons.1 hy with rfl | hy
    · exact ⟨x, List.mem_cons_self, hz⟩
    · obtain ⟨x', hx', hread⟩ := ih hzs hy
      exact ⟨x', List.mem_cons_of_mem x hx', hread⟩

/-- A scalar keeps the shape of its kind. -/
theorem Scalar.Stores.reread {s : Scalar} {x y : Json} (h : s.Stores x)
    (hy : x.reread? = some y) : s.Stores y := by
  cases s with
  | string | user | url | workItem =>
    obtain ⟨a, rfl⟩ := h
    cases hy
    exact ⟨a, rfl⟩
  | integer | duration =>
    obtain ⟨n, rfl, hn⟩ := h
    cases hy
    exact ⟨n, rfl, hn⟩
  | float =>
    obtain ⟨a, rfl⟩ := h
    obtain ⟨b, -, rfl⟩ := Option.map_eq_some_iff.1 hy
    exact ⟨b, rfl⟩
  | instant =>
    obtain ⟨us, t, rfl, hus, ht⟩ := h
    cases hy
    exact ⟨us, t, rfl, hus, ht⟩

/-- Only a floating number comes back as another value. -/
theorem Scalar.Stores.reread_eq {s : Scalar} {x y : Json} (h : s.Stores x) (hs : s ≠ .float)
    (hy : x.reread? = some y) : y = x := by
  cases s with
  | string | user | url | workItem | integer | duration | instant =>
    obtain ⟨_, h⟩ := h
    simp_all [Json.reread?]
  | float => exact absurd rfl hs

/-- A value keeps the shape of its type, if it has not left an enumeration of floating numbers. -/
theorem FieldType.Stores.reread {t : FieldType} {x y : Json} (h : t.Stores x)
    (hy : x.reread? = some y)
    (hallows : ∀ c, t = .enum c → c.base = .float → c.allows y = true) : t.Stores y := by
  cases t with
  | scalar s => exact Scalar.Stores.reread h hy
  | enum c =>
    refine ⟨Scalar.Stores.reread h.1 hy, ?_⟩
    by_cases hc : c.base = .float
    · exact hallows c rfl hc
    · rw [Scalar.Stores.reread_eq h.1 hc hy]
      exact h.2
  | list s =>
    obtain ⟨xs, rfl, hxs⟩ := h
    obtain ⟨ys, hys, rfl⟩ := Option.map_eq_some_iff.1 hy
    refine ⟨ys, rfl, fun y hy => ?_⟩
    obtain ⟨x, hx, hread⟩ := Json.mem_rereadItems? hys hy
    exact Scalar.Stores.reread (hxs x hx) hread

namespace FieldSet

variable {fs : FieldSet} {stored held : Record Json}

/-- Values of enumerations of floating numbers are among those allowed. -/
def AllowsFloats (fs : FieldSet) (held : Record Json) : Prop :=
  ∀ name d c v, fs.find? name = some d → d.type = .enum c → c.base = .float →
    held.find? name = some v → c.allows v = true

/-- A kept record that has been read back is kept if its enumerations of floating numbers still
allow what they hold. -/
theorem Keeps.reread (h : fs.Keeps stored) (hread : stored.Rereads held)
    (hallows : fs.AllowsFloats held) : fs.Keeps held := by
  intro name d hd
  have hname := h name d hd
  cases hv : stored.find? name with
  | none =>
    rw [hv] at hname
    rw [hread.find?, hv]
    exact hname
  | some v =>
    rw [hv] at hname
    obtain ⟨y, hy, hheld⟩ := hread.exists_reread hv
    rw [hheld]
    exact FieldType.Stores.reread hname hy fun c hc hbase => hallows name d c y hd hc hbase hheld

/-- What is kept can be shown after it has been printed and read, exactly if the values of
enumerations of floating numbers are still allowed. -/
theorem Keeps.toWire_reread_iff (h : fs.Keeps stored) (hread : stored.Rereads held) :
    (∃ w, fs.toWire held = .ok w) ↔ fs.AllowsFloats held := by
  refine ⟨?_, fun hallows => (h.reread hread hallows).toWire⟩
  intro hwire name d c v hd hc _ hv
  obtain ⟨w, hw⟩ := exists_toWire_iff.1 hwire name d hd
  have hname := h name d hd
  rw [hread.find?] at hv
  obtain ⟨x, hx, hy⟩ := Option.bind_eq_some_iff.1 hv
  rw [hx] at hname
  simp only [hc, FieldType.Stores] at hname
  have hne : v ≠ .null := (Scalar.Stores.reread hname.1 hy).ne_null
  rcases FieldDefinition.convert_eq_ok.1 hw with ⟨habsent, -⟩ | ⟨u, hu, -, hconvert⟩
  · rw [hread.find?, hv] at habsent
    simp [hne] at habsent
  · obtain rfl : v = u := by simpa [hread.find?, hv] using hu
    rw [hc] at hconvert
    have hconvert : (FieldType.enum c).toWire v = .ok w := hconvert
    rw [FieldType.toWire_of_ne_null hne] at hconvert
    exact (Choices.toWire_eq_ok.1 hconvert).1

end FieldSet

end Backlog
