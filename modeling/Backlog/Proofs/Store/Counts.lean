import Backlog.Proofs.Field.ReadBack
import Backlog.Proofs.Store.Extract
import Backlog.Proofs.Store.Lists
import Backlog.Proofs.Store.Readable
import Backlog.Proofs.Store.Started
import Backlog.Proofs.Store.Versions
import Backlog.Proofs.Store.Written
import Backlog.Proofs.Uuid

/-!
# Items of iterations, counted

**Main statement (`itemCounts_counts_references`).** The counts of a space stand under the ids of
those of its iterations that a live item references. For each there are as many items as there are
live items that reference it, and as many closed ones as there are closed items among those.

An item references the iteration whose id its field holds as a text, in letters of either size. What
is counted is decided on the text of the row (`refersTo`, `isClosed`), where every other type of
value has a text as well. None of these is the text of an identifier: integers have too few hyphens,
floating numbers have a point, and lists and objects start with a bracket (`refersTo_iff`).

**Assumed** is that a stored text comes out of the text of its row as it is
(`ItemRow.GivesTexts`). That is so exactly of texts without a NUL (`givesTexts_iff`).
-/

namespace Backlog

/-! ## Hyphens -/

theorem IsDigits.count_hyphen {cs : List Char} (h : IsDigits cs) : cs.count '-' = 0 :=
  List.count_eq_zero.2 fun hmem => absurd (h _ hmem) (by decide)

theorem Json.count_hyphen_intChars (n : Int) : (intChars n).count '-' ≤ 1 := by
  cases n with
  | ofNat n => simp [intChars, (IsDigits.toDigits n).count_hyphen]
  | negSucc n => simp [intChars, (IsDigits.toDigits (n + 1)).count_hyphen]

/-! ## Points -/

theorem Extended.mem_layout (digits : List Char) (point : Int) : '.' ∈ layout digits point := by
  unfold layout
  split
  · simp
  split
  · simp
  · simp

theorem Binary64.mem_roundedChars (x : Binary64) : '.' ∈ x.roundedChars := by
  unfold roundedChars
  split
  · simp
  · exact List.mem_append_right _ (Extended.mem_layout _ _)

namespace Uuid

theorem point_not_mem_text (u : Uuid) : '.' ∉ u.text.toList := by
  intro h
  have hdigits : ∀ d < 16, Json.hexDigit d ≠ '.' := by decide
  rcases eq_of_mem_text h with heq | ⟨d, hd, heq⟩
  · cases heq
  · exact hdigits d hd heq.symm

/-- No text that a bracket opens is that of an identifier. -/
theorem lower_ne_text {c : Char} (hc : c = '[' ∨ c = '\x7b') (cs : List Char) (u : Uuid) :
    Text.lower (String.ofList (c :: cs)) ≠ u.text := by
  intro h
  have hdigits : ∀ d < 16, Json.hexDigit d ≠ '[' ∧ Json.hexDigit d ≠ '\x7b' := by decide
  have hmem : c.toLower ∈ u.text.toList := by
    rw [← h, Text.lower, String.toList_ofList, String.toList_ofList]
    exact List.mem_cons_self
  rcases eq_of_mem_text hmem with heq | ⟨d, hd, heq⟩
  · rcases hc with rfl | rfl <;> exact absurd heq (by decide)
  · rcases hc with rfl | rfl
    · exact (hdigits d hd).1 heq.symm
    · exact (hdigits d hd).2 heq.symm

end Uuid

namespace Store

open Store.Action

variable {s : Store} {r : ItemRow} {stored : Record Json} {u : Uuid}

/-! ## Values of other types -/

theorem lowered_int_ne (n : Int) : Stored.lowered (.int n) ≠ some u.text := by
  have hcount := u.count_hyphen_text
  intro h
  rw [Stored.lowered] at h
  split at h
  · have hchars := Json.count_hyphen_intChars n
    rw [← Option.some.inj h, String.toList_ofList] at hcount
    omega
  · rw [← Option.some.inj h] at hcount
    split at hcount <;> exact absurd hcount (by decide)

theorem lowered_real_ne (x : Binary64) : Stored.lowered (.real x) ≠ some u.text := by
  intro h
  apply u.point_not_mem_text
  rw [← Option.some.inj h, String.toList_ofList]
  exact x.mem_roundedChars

/-- Digits are found as a number. -/
theorem numberOf_cases (negative : Bool) (cs : List Char) :
    (∃ n, Stored.numberOf negative cs = .int n) ∨ ∃ x, Stored.numberOf negative cs = .real x := by
  unfold Stored.numberOf
  extract_lets n
  split
  · exact .inl ⟨_, rfl⟩
  · split
    · exact .inr ⟨_, rfl⟩
    · exact .inl ⟨_, rfl⟩

theorem lowered_numberOf_ne (negative : Bool) (cs : List Char) :
    Stored.lowered (Stored.numberOf negative cs) ≠ some u.text := by
  rcases numberOf_cases negative cs with ⟨n, hn⟩ | ⟨x, hx⟩
  · exact hn ▸ lowered_int_ne n
  · exact hx ▸ lowered_real_ne x

theorem numberOf_ne_text (negative : Bool) (cs : List Char) (a : String) :
    Stored.numberOf negative cs ≠ .text a := by
  rcases numberOf_cases negative cs with ⟨n, hn⟩ | ⟨x, hx⟩
  · exact hn ▸ nofun
  · exact hx ▸ nofun

/-- Only a text can be an identifier, its capitals made small. -/
theorem exists_str_of_lowered {v : Json} (h : Stored.lowered (Stored.datumOf v) = some u.text) :
    ∃ a, v = .str a := by
  cases v with
  | null => cases h
  | bool b => exact absurd h (lowered_int_ne _)
  | int n => exact absurd h (lowered_numberOf_ne _ _)
  | float x => exact absurd h (lowered_numberOf_ne _ _)
  | str a => exact ⟨a, rfl⟩
  | arr xs =>
    have h : Stored.lowered (.text (Json.arr xs).text) = some u.text := h
    rw [Json.text, Stored.chars_arr] at h
    exact absurd (Option.some.inj h) (Uuid.lower_ne_text (.inl rfl) _ u)
  | obj ms =>
    have h : Stored.lowered (.text (Json.obj ms).text) = some u.text := h
    rw [Json.text, Stored.chars_obj] at h
    exact absurd (Option.some.inj h) (Uuid.lower_ne_text (.inr rfl) _ u)

/-- Only a text can be the name of a state. -/
theorem exists_str_of_closedState {v : Json}
    (h : Stored.datumOf v = .text WorkItem.closedState) : ∃ a, v = .str a := by
  cases v with
  | int n => exact absurd h (numberOf_ne_text _ _ _)
  | float x => exact absurd h (numberOf_ne_text _ _ _)
  | str a => exact ⟨a, rfl⟩
  | arr xs =>
    have h : Datum.text (Json.arr xs).text = .text WorkItem.closedState := h
    have hchars := String.toList_inj.2 (Datum.text.inj h)
    rw [Json.text, Stored.chars_arr, String.toList_ofList] at hchars
    cases hchars
  | obj ms =>
    have h : Datum.text (Json.obj ms).text = .text WorkItem.closedState := h
    have hchars := String.toList_inj.2 (Datum.text.inj h)
    rw [Json.text, Stored.chars_obj, String.toList_ofList] at hchars
    cases hchars
  | null | bool => cases h

/-! ## References -/

/-- The row holds the text that a record with this value under this name is stored as. -/
def ItemRow.Stores (r : ItemRow) (field : String) (v : Json) : Prop :=
  ∃ stored : Record Json, stored.WellFormed ∧ storedText stored = .ok r.fieldsText ∧
    stored.find? field = some v

/-- The field for iterations holds the id as a text, in letters of either size. -/
def ItemRow.References (r : ItemRow) (iteration : Uuid) : Prop :=
  ∃ a, ItemRow.Stores r WorkItem.iterationField (.str a) ∧ Text.lower a = Text.lower iteration.text

def ItemRow.Closed (r : ItemRow) : Prop :=
  ItemRow.Stores r WorkItem.stateField (.str WorkItem.closedState)

/-- A text under one of the two fields comes out of the text of the row as it is. -/
def ItemRow.GivesTexts (r : ItemRow) : Prop :=
  ∀ field ∈ [WorkItem.iterationField, WorkItem.stateField], ∀ a, ItemRow.Stores r field (.str a) →
    Stored.extract r.fieldsText field = .text a

theorem unescaped_fields :
    ∀ field ∈ [WorkItem.iterationField, WorkItem.stateField], Stored.Unescaped field := by
  decide +kernel

theorem extract_storedText {text name : String} (htext : storedText stored = .ok text)
    (hname : Stored.Unescaped name) :
    Stored.extract text name = ((stored.find? name).map Stored.datumOf).getD .null := by
  obtain ⟨hdepth, rfl⟩ := storedText_eq_ok.1 htext
  exact Stored.extract_text hdepth hname

/-- The texts that come out as they are are those without a NUL. -/
theorem givesTexts_iff :
    ItemRow.GivesTexts r ↔ ∀ field ∈ [WorkItem.iterationField, WorkItem.stateField], ∀ a,
      ItemRow.Stores r field (.str a) → ∀ c ∈ a.toList, c.toNat ≠ 0 := by
  refine forall₂_congr fun field hfield => forall₂_congr fun a hstores => ?_
  obtain ⟨stored, hwf, htext, hvalue⟩ := hstores
  rw [extract_storedText htext (unescaped_fields field hfield), hvalue]
  simp only [Option.map_some, Option.getD_some, Stored.datumOf, Datum.ofJson, Datum.text.injEq]
  rw [← String.toList_inj, String.toList_ofList, List.takeWhile_eq_self_iff]
  simp

section Row

variable (hwf : stored.WellFormed) (htext : storedText stored = .ok r.fieldsText)
  (hgives : ItemRow.GivesTexts r)
include hwf htext hgives

/-- Where only a text can have been looked up, the row stores it. -/
theorem exists_stores_of_extract {field : String}
    (hfield : field ∈ [WorkItem.iterationField, WorkItem.stateField])
    (hfound : Stored.extract r.fieldsText field ≠ .null)
    (honly : ∀ v, Stored.datumOf v = Stored.extract r.fieldsText field → ∃ a, v = .str a) :
    ∃ a, ItemRow.Stores r field (.str a) ∧ Stored.extract r.fieldsText field = .text a := by
  have hextract := extract_storedText htext (unescaped_fields field hfield)
  cases hvalue : stored.find? field with
  | none =>
    rw [hvalue] at hextract
    exact absurd hextract hfound
  | some v =>
    rw [hvalue] at hextract
    obtain ⟨a, rfl⟩ := honly _ hextract.symm
    have hstores : ItemRow.Stores r field (.str a) := ⟨stored, hwf, htext, hvalue⟩
    exact ⟨a, hstores, hgives field hfield a hstores⟩

/-- **References by the text of a row.** -/
theorem refersTo_iff : refersTo u.text r = true ↔ ItemRow.References r u := by
  have hfield : WorkItem.iterationField ∈ [WorkItem.iterationField, WorkItem.stateField] := by
    decide
  rw [refersTo, decide_eq_true_eq]
  constructor
  · intro h
    have hfound : Stored.extract r.fieldsText WorkItem.iterationField ≠ .null := by
      intro hnull
      rw [hnull] at h
      cases h
    obtain ⟨a, hstores, hextract⟩ := exists_stores_of_extract hwf htext hgives hfield hfound
      fun v hv => exists_str_of_lowered (hv ▸ h)
    rw [hextract] at h
    exact ⟨a, hstores, (Option.some.inj h).trans u.lower_text.symm⟩
  · rintro ⟨a, hstores, hlower⟩
    rw [hgives _ hfield a hstores, Stored.lowered, hlower, u.lower_text]

theorem isClosed_iff : isClosed r = true ↔ ItemRow.Closed r := by
  have hfield : WorkItem.stateField ∈ [WorkItem.iterationField, WorkItem.stateField] := by decide
  rw [isClosed, decide_eq_true_eq]
  constructor
  · intro h
    have hfound : Stored.extract r.fieldsText WorkItem.stateField ≠ .null := by
      rw [h]
      exact nofun
    obtain ⟨a, hstores, hextract⟩ := exists_stores_of_extract hwf htext hgives hfield hfound
      fun v hv => exists_str_of_closedState (hv.trans h)
    rw [ItemRow.Closed, ← Datum.text.inj (hextract.symm.trans h)]
    exact hstores
  · exact hgives _ hfield _

end Row

/-! ## Counting -/

/-- Keys that differ count no element twice. -/
theorem sum_countP_le {α κ : Type} [DecidableEq κ] (key : α → Option κ) {ks : List κ}
    (hks : ks.Nodup) (xs : List α) :
    (ks.map fun k => xs.countP (key · = some k)).sum ≤ xs.length := by
  induction ks generalizing xs with
  | nil => simp
  | cons k ks ih =>
    obtain ⟨hk, hks⟩ := List.nodup_cons.1 hks
    -- the other keys count among the elements that the first key leaves
    have hothers : (ks.map fun k' => xs.countP (key · = some k')) =
        ks.map fun k' => (xs.filter (key · ≠ some k)).countP (key · = some k') := by
      refine List.map_congr_left fun k' hk' => ?_
      rw [List.countP_filter]
      refine List.countP_congr fun x _ => ?_
      have hne : k' ≠ k := fun heq => hk (heq ▸ hk')
      simp only [decide_eq_true_eq, Bool.and_eq_true, ne_eq]
      constructor
      · intro hx
        exact ⟨hx, by simpa [hx] using hne⟩
      · exact And.left
    have hrest := ih hks (xs.filter (key · ≠ some k))
    rw [← hothers, ← List.countP_eq_length_filter] at hrest
    have hsum := List.length_eq_countP_add_countP (key · = some k) (l := xs)
    simp only [decide_eq_true_eq] at hsum
    simp only [ne_eq] at hrest
    rw [List.map_cons, List.sum_cons]
    omega

theorem countsOf_eq_some {name : String} {c : ItemCounts} :
    countsOf s name = some c ↔ (∃ r ∈ liveItems s, refersTo name r = true) ∧
      c = ⟨(liveItems s).countP (refersTo name),
        (liveItems s).countP fun r => refersTo name r && isClosed r⟩ := by
  have hempty : ((liveItems s).filter (refersTo name)).isEmpty = true ↔
      ¬ ∃ r ∈ liveItems s, refersTo name r = true := by
    simp [List.isEmpty_iff, List.filter_eq_nil_iff]
  have hclosed : ((liveItems s).filter (refersTo name)).filter isClosed =
      (liveItems s).filter fun r => refersTo name r && isClosed r := by
    rw [List.filter_filter]
    exact List.filter_congr fun r _ => Bool.and_comm _ _
  rw [countsOf]
  simp only [hclosed, ← List.countP_eq_length_filter]
  split
  next h => exact ⟨nofun, fun hc => absurd hc.1 (hempty.1 h)⟩
  next h =>
    have hsome := not_not.1 (mt hempty.2 h)
    rw [and_iff_right hsome, Option.some.injEq, eq_comm]

/-- The counts of the iterations of a space. -/
def counted (space : Uuid) (s : Store) : Record ItemCounts :=
  let ids := (s.iterations.filter (·.space = space.text)).map (·.id)
  Record.ofList (ids.filterMap fun id => (countsOf s id).map fun c => (id, c))

theorem find?_counted {space : Uuid} {name : String} {c : ItemCounts}
    (hdistinct : (s.iterations.map (·.id)).Nodup) :
    (counted space s).find? name = some c ↔
      (∃ i ∈ s.iterations, i.id = name ∧ i.space = space.text) ∧ countsOf s name = some c := by
  have hnames : ((((s.iterations.filter (·.space = space.text)).map (·.id)).filterMap fun id =>
      (countsOf s id).map fun c => (id, c)).map Prod.fst).Nodup := by
    have hids : ((s.iterations.filter (·.space = space.text)).map (·.id)).Nodup :=
      hdistinct.sublist (List.filter_sublist.map _)
    rw [List.map_filterMap]
    refine hids.filterMap fun a b d ha hb => ?_
    simp only [Option.map_map, Option.mem_def, Option.map_eq_some_iff] at ha hb
    obtain ⟨_, -, rfl⟩ := ha
    obtain ⟨_, -, rfl⟩ := hb
    rfl
  rw [counted, Record.find?_ofList_eq_some hnames]
  simp only [List.mem_filterMap, List.mem_map, List.mem_filter, decide_eq_true_eq,
    Option.map_eq_some_iff, Prod.mk.injEq]
  constructor
  · rintro ⟨_, ⟨i, ⟨hi, hspace⟩, rfl⟩, _, hc, rfl, rfl⟩
    exact ⟨⟨i, hi, rfl, hspace⟩, hc⟩
  · rintro ⟨⟨i, hi, rfl, hspace⟩, hc⟩
    exact ⟨_, ⟨i, ⟨hi, hspace⟩, rfl⟩, _, hc, rfl, rfl⟩

/-- The ids of all rows can be read, so the counts are what has been counted. -/
theorem runOn_itemCounts (hheld : AllHold s) (hdistinct : (s.iterations.map (·.id)).Nodup)
    (space : Uuid) : (itemCounts space).runOn s = (.ok (counted space s), s) := by
  have hread : (counted space s).entries.mapM readCounts = .ok (counted space s).entries := by
    refine mapM_eq_ok.2 (List.forall₂_same.2 ?_)
    rintro ⟨name, c⟩ hmem
    obtain ⟨⟨r, hr, rfl, -⟩, -⟩ := (find?_counted hdistinct).1 (Record.mem_entries_iff.1 hmem)
    obtain ⟨i, hi⟩ := hheld r hr
    have hid : r.id = i.id.text := by
      rw [hi.row]
      rfl
    simp [readCounts, hid, Uuid.read_text]
  rw [itemCounts, get_bind_runOn]
  refine ofResult_bind_runOn_eq_ok.2 ⟨_, hread, ?_⟩
  rw [Record.ofList_entries]
  rfl

/-- The store with another registry, and with items of other types. -/
def retyped (types : List TypeRow) (name : ItemRow → String) (s : Store) : Store :=
  { s with types := types, items := s.items.map fun r => { r with typeName := name r } }

/-- Types are not looked at. -/
theorem counted_retyped (types : List TypeRow) (name : ItemRow → String) (space : Uuid)
    (s : Store) : counted space (retyped types name s) = counted space s := by
  have hlive : liveItems (retyped types name s) =
      (liveItems s).map fun r => { r with typeName := name r } := by
    rw [retyped, liveItems, List.filter_map]
    rfl
  have hcounts : ∀ id, countsOf (retyped types name s) id = countsOf s id := by
    intro id
    have hreferring : (liveItems (retyped types name s)).filter (refersTo id) =
        ((liveItems s).filter (refersTo id)).map fun r => { r with typeName := name r } := by
      rw [hlive, List.filter_map]
      rfl
    simp only [countsOf, hreferring, List.filter_map, List.length_map, List.isEmpty_map]
    rfl
  simp only [counted, hcounts]
  rfl

open scoped Classical in
/-- What the counts of a space say of the items of a store. -/
structure Tallies (s : Store) (space : Uuid) (counts : Record ItemCounts) : Prop where
  keys : ∀ name, name ∈ counts.names ↔
    ∃ u : Uuid, name = u.text ∧ (∃ i ∈ s.iterations, i.id = u.text ∧ i.space = space.text) ∧
      ∃ r ∈ liveItems s, ItemRow.References r u
  total : ∀ (u : Uuid) c, counts.find? u.text = some c →
    c.total = (liveItems s).countP (ItemRow.References · u)
  closed : ∀ (u : Uuid) c, counts.find? u.text = some c →
    c.closed = (liveItems s).countP fun r => ItemRow.References r u ∧ ItemRow.Closed r
  bounds : ∀ (u : Uuid) c, counts.find? u.text = some c → 1 ≤ c.total ∧ c.closed ≤ c.total
  distinct : ((liveItems s).map (·.id)).Nodup
  once : ∀ r ∈ liveItems s, ∀ u v, ItemRow.References r u → ItemRow.References r v → u = v
  sum : (counts.entries.map (·.2.total)).sum ≤ (liveItems s).length

theorem exists_stored {ops : List Operation} (hops : ∀ op ∈ ops, op.WellFormed)
    (hr : r ∈ liveItems (run ops empty).2) :
    ∃ stored : Record Json, stored.WellFormed ∧ storedText stored = .ok r.fieldsText := by
  obtain ⟨t, stored, ⟨-, htext, hwf, -⟩, -, hdepth⟩ :=
    AllConverted.run hops r (mem_liveItems.1 hr).1
  exact ⟨stored, hwf, storedText_eq_ok.2 ⟨hdepth, htext⟩⟩

/-- What is decided on the texts of rows is what the rows store. -/
theorem tallies_counted {space : Uuid} (hheld : AllHold s)
    (hdistinct : (s.iterations.map (·.id)).Nodup) (hnumbered : Numbered s)
    (hrefers : ∀ r ∈ liveItems s, ∀ u : Uuid, refersTo u.text r = true ↔ ItemRow.References r u)
    (hclosed : ∀ r ∈ liveItems s, isClosed r = true ↔ ItemRow.Closed r) :
    Tallies s space (counted space s) where
  keys name := by
    rw [Record.mem_names_iff, Option.isSome_iff_exists]
    simp only [find?_counted hdistinct, countsOf_eq_some]
    constructor
    · rintro ⟨_, ⟨i, hi, rfl, hspace⟩, ⟨r, hr, href⟩, -⟩
      obtain ⟨held, hi'⟩ := hheld i hi
      have hid : i.id = held.id.text := by
        rw [hi'.row]
        rfl
      rw [hid] at href
      exact ⟨held.id, hid, ⟨i, hi, hid, hspace⟩, r, hr, (hrefers r hr _).1 href⟩
    · rintro ⟨u, rfl, hi, r, hr, href⟩
      exact ⟨_, hi, ⟨r, hr, (hrefers r hr u).2 href⟩, rfl⟩
  total u c hc := by
    obtain ⟨-, rfl⟩ := countsOf_eq_some.1 ((find?_counted hdistinct).1 hc).2
    exact List.countP_congr fun r hr => by simpa using hrefers r hr u
  closed u c hc := by
    obtain ⟨-, rfl⟩ := countsOf_eq_some.1 ((find?_counted hdistinct).1 hc).2
    refine List.countP_congr fun r hr => ?_
    simpa using and_congr (hrefers r hr u) (hclosed r hr)
  bounds u c hc := by
    obtain ⟨⟨r, hr, href⟩, rfl⟩ := countsOf_eq_some.1 ((find?_counted hdistinct).1 hc).2
    refine ⟨List.countP_pos_iff.2 ⟨r, hr, href⟩, List.countP_mono_left fun r _ hboth => ?_⟩
    exact (Bool.and_eq_true_iff.1 hboth).1
  distinct := hnumbered.nodup.sublist (List.filter_sublist.map _)
  once r hr u v hu hv := by
    have htext : some u.text = some v.text := by
      rw [← of_decide_eq_true ((hrefers r hr u).2 hu), ← of_decide_eq_true ((hrefers r hr v).2 hv)]
    exact Uuid.text_injective (Option.some.inj htext)
  sum := by
    have htotals : (counted space s).entries.map (·.2.total) =
        (counted space s).names.map fun name => (liveItems s).countP (refersTo name) := by
      rw [Record.names, List.map_map]
      refine List.map_congr_left fun e he => ?_
      obtain ⟨name, c⟩ := e
      have hfound := (find?_counted hdistinct).1 (Record.mem_entries_iff.1 he)
      obtain ⟨-, rfl⟩ := countsOf_eq_some.1 hfound.2
      rfl
    let key (r : ItemRow) := Stored.lowered (Stored.extract r.fieldsText WorkItem.iterationField)
    have hkeys : ∀ name, refersTo name = fun r => decide (key r = some name) := fun _ => rfl
    have hnodup : (counted space s).names.Nodup := Record.nodup_names _
    simp only [htotals, hkeys]
    exact sum_countP_le key hnodup (liveItems s)

/-- **Counts of iterations.** After every run, the counts of a space stand under the ids of those of
its iterations that a live item references. For each there are as many items as there are live
items that reference it, at least one, and as many closed ones as there are closed items among
those. An item references one iteration at most, so none is counted twice. The store stays as it
was, and it does not matter what types its items have and which types there are. -/
theorem itemCounts_counts_references (ops : List Operation) (hops : ∀ op ∈ ops, op.WellFormed)
    (hs : (run ops empty).2 = s) (hgives : ∀ r ∈ liveItems s, ItemRow.GivesTexts r)
    (space : Uuid) :
    ∃ counts, (itemCounts space).runOn s = (.ok counts, s) ∧ Tallies s space counts ∧
      ∀ types name, ((itemCounts space).runOn (retyped types name s)).1 = .ok counts := by
  subst hs
  have hheld := AllHold.run ops
  have hdistinct := (OneStarted.run ops).distinct
  refine ⟨_, runOn_itemCounts hheld hdistinct space, ?_, fun types name => ?_⟩
  · refine tallies_counted hheld hdistinct (numbered_empty.run ops) (fun r hr u => ?_)
      fun r hr => ?_
    · obtain ⟨stored, hwf, htext⟩ := exists_stored hops hr
      exact refersTo_iff hwf htext (hgives r hr)
    · obtain ⟨stored, hwf, htext⟩ := exists_stored hops hr
      exact isClosed_iff hwf htext (hgives r hr)
  · have hretyped : AllHold (retyped types name (run ops empty).2) := fun r hr => by
      obtain ⟨i, hi⟩ := hheld r hr
      exact ⟨i, hi.row, hi.named, hi.parent⟩
    rw [runOn_itemCounts hretyped hdistinct, counted_retyped]

/-! ## Two items of an iteration -/

/-- A text can be known from what it is read as. -/
theorem givesTexts_of_rereads {held : Record Json} (hwf : held.WellFormed)
    (hdepth : (Json.ofRecord held).depth ≤ Json.depthLimit) (hself : held.Rereads held)
    (htext : r.fieldsText = (Json.ofRecord held).text)
    (hplain : ∀ field ∈ [WorkItem.iterationField, WorkItem.stateField],
      ∀ a ∈ (held.find? field).bind Json.string?, a.toList.all (·.toNat ≠ 0) = true) :
    ItemRow.GivesTexts r := by
  rw [givesTexts_iff]
  rintro field hfield a ⟨stored, hstored, hprinted, hvalue⟩ c hc
  have hread := (Record.decodeText_eq_ok hwf).2 ⟨hdepth, hself⟩
  rw [← htext, (storedText_eq_ok.1 hprinted).2, Record.decodeText_eq_ok hstored] at hread
  have hheld := hread.2.find? field
  rw [hvalue] at hheld
  have hall := hplain field hfield a (by rw [hheld]; rfl)
  exact of_decide_eq_true (List.all_eq_true.1 hall c hc)

def sprint : Uuid := ⟨171, by decide⟩

/-- The fields of an item of an iteration. -/
def sprintFields (iteration state : String) : Record Json :=
  (Record.empty.insert WorkItem.iterationField (.str iteration)).insert WorkItem.stateField
    (.str state)

/-- Two live items of an iteration, which one of them names in capitals, and a deleted one. -/
def sprintRun : List Operation :=
  [.createType none "t" .empty, .createIteration sprint 0 ⟨default, "a", none, none, none⟩,
    .createItem 0 "t" (sprintFields "00000000-0000-0000-0000-0000000000AB" "closed") "u",
    .createItem 0 "t" (sprintFields "00000000-0000-0000-0000-0000000000ab" "open") "u",
    .createItem 0 "t" (sprintFields "00000000-0000-0000-0000-0000000000ab" "closed") "u",
    .deleteItem 1 "3"]

theorem wellFormed_sprintFields (iteration state : String) :
    (sprintFields iteration state).WellFormed := by
  have hiteration := Record.wellFormed_empty.insert WorkItem.iterationField (v := .str iteration)
    trivial
  exact hiteration.insert WorkItem.stateField (v := .str state) trivial

theorem wellFormed_sprintRun : ∀ op ∈ sprintRun, op.WellFormed := by
  intro op hop
  simp only [sprintRun, List.mem_cons, List.not_mem_nil, or_false] at hop
  rcases hop with rfl | rfl | rfl | rfl | rfl | rfl
  · trivial
  · trivial
  · exact wellFormed_sprintFields _ _
  · exact wellFormed_sprintFields _ _
  · exact wellFormed_sprintFields _ _
  · trivial

/-- What an item of the iteration is stored as. -/
def sprintStored (iteration state : String) : Record Json :=
  (sprintFields iteration state).insert WorkItem.creatorField (.str "u")

theorem rereads_sprintStored (iteration state : String) :
    (sprintStored iteration state).Rereads (sprintStored iteration state) := by
  refine Record.rereads_self_iff.2 fun name v hv => ?_
  simp only [sprintStored, sprintFields, Record.find?_insert, Record.find?_empty] at hv
  split_ifs at hv <;> cases hv <;> rfl

theorem texts_sprintRun : (liveItems (run sprintRun empty).2).map (·.fieldsText) =
    [(Json.ofRecord (sprintStored "00000000-0000-0000-0000-0000000000AB" "closed")).text,
      (Json.ofRecord (sprintStored "00000000-0000-0000-0000-0000000000ab" "open")).text] := by
  decide +kernel

theorem givesTexts_sprintRun :
    ∀ r ∈ liveItems (run sprintRun empty).2, ItemRow.GivesTexts r := by
  intro r hr
  have hwf (iteration state : String) : (sprintStored iteration state).WellFormed :=
    (wellFormed_sprintFields iteration state).insert _ (v := .str "u") trivial
  have htext := List.mem_map_of_mem (f := (·.fieldsText)) hr
  rw [texts_sprintRun, List.mem_cons, List.mem_singleton] at htext
  rcases htext with h | h
  · exact givesTexts_of_rereads (hwf _ _) (by decide +kernel) (rereads_sprintStored _ _) h
      (by decide +kernel)
  · exact givesTexts_of_rereads (hwf _ _) (by decide +kernel) (rereads_sprintStored _ _) h
      (by decide +kernel)

theorem itemCounts_counts_references_sprintRun :
    (∀ op ∈ sprintRun, op.WellFormed) ∧
      (∀ r ∈ liveItems (run sprintRun empty).2, ItemRow.GivesTexts r) ∧
      ∃ counts, (itemCounts default).runOn (run sprintRun empty).2 =
          (.ok counts, (run sprintRun empty).2) ∧
        Tallies (run sprintRun empty).2 default counts ∧
        counts.find? sprint.text = some ⟨2, 1⟩ := by
  obtain ⟨counts, hcounts, htallies, -⟩ := itemCounts_counts_references sprintRun
    wellFormed_sprintRun rfl givesTexts_sprintRun default
  have hfound : ((itemCounts default).runOn (run sprintRun empty).2).1.toOption.bind
      (·.find? sprint.text) = some ⟨2, 1⟩ := by decide +kernel
  rw [hcounts] at hfound
  exact ⟨wellFormed_sprintRun, givesTexts_sprintRun, counts, hcounts, htallies, hfound⟩

end Store

end Backlog
