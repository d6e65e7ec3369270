import Backlog.Proofs.Command.Outcome
import Backlog.Proofs.Number.Digits
import Backlog.Proofs.Store.ItemCauses
import Backlog.Proofs.Store.Registrations

/-!
# One line for each record

In text mode a command that shows records writes a line for each of them, with tabs between its
columns, and writes every column as it is.

**Main statement (`records_by_line`).** The lines can be taken apart into the columns of the records
exactly if no column holds a tab or the end of a line. Only titles and states of items, names of
iterations and names of people can: ids, names of types and states of iterations never do.

**The gap** (`exists_record_not_by_line`): a title of two lines is taken as it is.
-/

namespace Backlog

open Store (Answer Operation Script)

/-! ## Texts and their lines -/

section Split

variable {α : Type} [BEq α] [LawfulBEq α] {a c : α} {xs part : List α}

/-- The parts of a list between separators hold what it holds, without the separator. -/
theorem mem_of_mem_splitOn (h : part ∈ xs.splitOn a) (hc : c ∈ part) : c ∈ xs ∧ c ≠ a := by
  induction xs generalizing part with
  | nil =>
    obtain rfl : part = [] := by simpa using h
    cases hc
  | cons x xs ih =>
    rw [List.splitOn_cons_eq_if_modifyHead] at h
    split at h
    · rcases List.mem_cons.1 h with rfl | h
      · cases hc
      · exact (ih h hc).imp_left (List.mem_cons_of_mem x)
    next hx =>
      cases hparts : xs.splitOn a with
      | nil => exact absurd hparts (List.splitOn_ne_nil a xs)
      | cons first rest =>
        rw [hparts, List.modifyHead_cons] at h
        rw [hparts] at ih
        rcases List.mem_cons.1 h with rfl | h
        · rcases List.mem_cons.1 hc with rfl | hc
          · exact ⟨List.mem_cons_self, by simpa using hx⟩
          · exact (ih List.mem_cons_self hc).imp_left (List.mem_cons_of_mem x)
        · exact (ih (List.mem_cons_of_mem _ h) hc).imp_left (List.mem_cons_of_mem x)

end Split

theorem mem_intercalate {α : Type} {a c : α} {parts : List (List α)}
    (h : c ∈ [a].intercalate parts) : c = a ∨ ∃ part ∈ parts, c ∈ part := by
  induction parts with
  | nil => simp at h
  | cons part parts ih =>
    cases parts with
    | nil => exact .inr ⟨part, List.mem_cons_self, by simpa using h⟩
    | cons next parts =>
      rw [List.intercalate_cons_cons] at h
      simp only [List.mem_append, List.mem_singleton] at h
      rcases h with (h | h) | h
      · exact .inr ⟨part, List.mem_cons_self, h⟩
      · exact .inl h
      · refine (ih h).imp_right fun h => ?_
        obtain ⟨part, hpart, hc⟩ := h
        exact ⟨part, List.mem_cons_of_mem _ hpart, hc⟩

/-- The columns of a line. -/
def columns (line : String) : List String := (line.toList.splitOn '\t').map String.ofList

/-- The text is one line for each record, in their order, and each line has the columns of its
record. -/
def Tabulates (text : String) (records : List (List String)) : Prop :=
  ∃ lines : List String, text = String.join (lines.map Output.line) ∧
    (∀ l ∈ lines, '\n' ∉ l.toList) ∧ lines.map columns = records

/-- A text without tabs and ends of lines. -/
def Plain (s : String) : Prop := '\t' ∉ s.toList ∧ '\n' ∉ s.toList

theorem plain_of_mem_columns {line s : String} (hline : '\n' ∉ line.toList)
    (h : s ∈ columns line) : Plain s := by
  obtain ⟨part, hpart, rfl⟩ := List.mem_map.1 h
  rw [Plain, String.toList_ofList]
  exact ⟨fun htab => (mem_of_mem_splitOn hpart htab).2 rfl,
    fun hend => hline (mem_of_mem_splitOn hpart hend).1⟩

theorem columns_intercalate {record : List String} (hne : record ≠ [])
    (h : ∀ s ∈ record, Plain s) : columns ("\t".intercalate record) = record := by
  have hparts : ∀ part ∈ record.map String.toList, '\t' ∉ part := by
    intro part hpart
    obtain ⟨s, hs, rfl⟩ := List.mem_map.1 hpart
    exact (h s hs).1
  have hchars : ("\t".intercalate record).toList = ['\t'].intercalate (record.map String.toList) :=
    String.toList_intercalate
  rw [columns, hchars, List.splitOn_intercalate '\t' hparts (by simpa using hne), List.map_map]
  exact List.map_id'' (fun _ => String.ofList_toList) record

theorem end_notMem_intercalate {record : List String} (h : ∀ s ∈ record, Plain s) :
    '\n' ∉ ("\t".intercalate record).toList := by
  have hchars : ("\t".intercalate record).toList = ['\t'].intercalate (record.map String.toList) :=
    String.toList_intercalate
  rw [hchars]
  intro hend
  rcases mem_intercalate hend with hend | ⟨part, hpart, hend⟩
  · exact absurd hend (by decide)
  · obtain ⟨s, hs, rfl⟩ := List.mem_map.1 hpart
    exact (h s hs).2 hend

/-- **One line for each record.** What is written as tabbed lines can be taken apart again exactly
if all columns are plain. -/
theorem tabulates_iff {records : List (List String)} (hne : ∀ record ∈ records, record ≠ []) :
    Tabulates (String.join (records.map Output.tabbed)) records ↔
      ∀ record ∈ records, ∀ s ∈ record, Plain s := by
  constructor
  · intro h record hrecord s hs
    obtain ⟨lines, -, hlines, rfl⟩ := h
    obtain ⟨l, hl, rfl⟩ := List.mem_map.1 hrecord
    exact plain_of_mem_columns (hlines l hl) hs
  · intro h
    refine ⟨records.map ("\t".intercalate ·), ?_, ?_, ?_⟩
    · rw [List.map_map]
      rfl
    · intro l hl
      obtain ⟨record, hrecord, rfl⟩ := List.mem_map.1 hl
      exact end_notMem_intercalate (h record hrecord)
    · rw [List.map_map]
      refine (List.map_congr_left fun record hrecord => ?_).trans (List.map_id _)
      exact columns_intercalate (hne record hrecord) (h record hrecord)

/-! ## Records -/

namespace Output

/-- The columns of an item: its id, type, state and title. -/
def itemColumns (w : WorkItem) : List String :=
  [w.id, w.typeName, w.state?.getD "-", w.title?.getD ""]

def iterationColumns (i : Iteration) : List String := [i.id.text, i.state.name, i.name]

def identityColumns (i : Identity) : List String := [i.id.text, i.fullName]

/-- The records of an answer, by their columns. -/
def records : Answer → List (List String)
  | .item w => [itemColumns w]
  | .items ws _ => ws.map itemColumns
  | .iterations is => is.map iterationColumns
  | .identities is => is.map identityColumns
  | _ => []

/-- The columns of an answer that callers fill as they like. -/
def freeColumns : Answer → List String
  | .item w => [w.state?.getD "-", w.title?.getD ""]
  | .items ws _ => ws.flatMap fun w => [w.state?.getD "-", w.title?.getD ""]
  | .iterations is => is.map Iteration.name
  | .identities is => is.map Identity.fullName
  | _ => []

theorem records_ne_nil (a : Answer) : ∀ record ∈ records a, record ≠ [] := by
  cases a with
  | item w => simp [records, itemColumns]
  | items ws total => simp [records, itemColumns]
  | iterations is => simp [records, iterationColumns]
  | identities is => simp [records, identityColumns]
  | _ => simp [records]

/-- An answer whose text has a line for each record. -/
def Listed : Answer → Prop
  | .item _ | .items _ _ | .iterations _ | .identities _ => True
  | _ => False

theorem text_eq_join {a : Answer} (ha : Listed a) (view : View) :
    (⟨a, view⟩ : Result).text .text = String.join ((records a).map tabbed) := by
  have hmode : OutputMode.text ≠ .json := by decide
  rw [Result.text, if_neg hmode]
  cases a with
  | item w =>
    simp only [Result.words, records, List.map_cons, List.map_nil, String.join_cons,
      String.join_nil, String.append_empty]
    rfl
  | items ws total =>
    cases view <;> simp only [Result.words, page, headingIf, records, List.map_map, reduceCtorEq,
      if_false, String.empty_append, String.append_empty] <;> rfl
  | iterations is =>
    simp only [Result.words, headingIf, records, List.map_map, reduceCtorEq, if_false,
      String.empty_append]
    rfl
  | identities is =>
    simp only [Result.words, headingIf, records, List.map_map, reduceCtorEq, if_false,
      String.empty_append]
    rfl
  | _ => exact ha.elim

end Output

/-! ## Commands -/

/-- A command that shows items, iterations or identities. -/
def Command.ShowsRecords : Command → Prop
  | .showItem _ | .listItems _ _ _ | .listIterations _ | .listIdentities => True
  | _ => False

/-- The operation behind such a command. -/
def Store.Operation.ShowsRecords : Operation → Prop
  | .loadItem _ | .listItems _ _ _ | .listIterations _ | .listIdentities => True
  | _ => False

section Commands

variable {c : Command} {op : Operation} {a : Answer} {s s' : Store} {r : Result} {fresh : Fresh}
  {paging : PagingConfig} {p : Project}

open Store.Action in
theorem listed_of_run (hop : op.ShowsRecords) (h : op.run s = (.ok a, s')) : Output.Listed a := by
  cases op with
  | loadItem | listItems | listIterations | listIdentities =>
    obtain ⟨x, -, rfl⟩ := map_runOn_eq_ok.1 h
    trivial
  | _ => exact hop.elim

/-- What a script answers that ends with one operation is the answer of that. -/
theorem run_askLast {view : View} (h : ((Command.askLast op view).run s).1 = .ok r) :
    ∃ s', op.run s = (.ok r.answer, s') := by
  rcases hrun : op.run s with ⟨e | a, s'⟩
  · rw [Command.askLast, Script.run, hrun] at h
    cases h
  · rw [Command.askLast, Script.run, hrun] at h
    cases h
    exact ⟨s', rfl⟩

/-- A command that shows records shows the answer of one operation. -/
theorem exists_operation (hc : c.ShowsRecords) (h : ((c.script paging fresh).run s).1 = .ok r) :
    ∃ (op : Operation) (s' : Store), op.ShowsRecords ∧ op.run s = (.ok r.answer, s') := by
  have hlast (op : Operation) (view : View) (hop : op.ShowsRecords)
      (h : ((Command.askLast op view).run s).1 = .ok r) :
      ∃ (op : Operation) (s' : Store), op.ShowsRecords ∧ op.run s = (.ok r.answer, s') := by
    obtain ⟨s', hrun⟩ := run_askLast h
    exact ⟨op, s', hop, hrun⟩
  cases c with
  | showItem id => exact hlast (.loadItem id) .plain trivial h
  | listIterations space => exact hlast (.listIterations space) (.inSpace space) trivial h
  | listIdentities => exact hlast .listIdentities .plain trivial h
  | listItems filter offset limit =>
    rw [Command.script, Command.listScript.eq_def] at h
    dsimp only at h
    generalize Except.mapError _ _ = read at h
    cases read with
    | error f => cases h
    | ok f => exact hlast (.listItems f _ _) _ trivial h
  | _ => exact hc.elim

theorem written_eq_join (hc : c.ShowsRecords) (ha : Output.Listed r.answer) :
    c.written p r .text = String.join ((Output.records r.answer).map Output.tabbed) := by
  obtain ⟨a, view⟩ := r
  have hwritten : c.written p ⟨a, view⟩ .text = (⟨a, view⟩ : Result).text .text := by
    cases c <;> first | rfl | exact hc.elim
  rw [hwritten, Output.text_eq_join ha]

/-! ## Columns that are always plain -/

theorem plain_of_forall {text : String} {P : Char → Bool} (h : ∀ x ∈ text.toList, P x = true)
    (htab : P '\t' = false) (hend : P '\n' = false) : Plain text := by
  refine ⟨fun hmem => ?_, fun hmem => ?_⟩
  · rw [h _ hmem] at htab
    cases htab
  · rw [h _ hmem] at hend
    cases hend

theorem Store.plain_idText (k : Nat) : Plain (Store.idText k) := by
  refine plain_of_forall (P := Char.isDigit) ?_ (by decide) (by decide)
  rw [Store.idText, String.toList_ofList]
  exact IsDigits.toDigits k

theorem ItemType.plain_of_checkName {name : String} (h : ItemType.checkName name = .ok ()) :
    Plain name := by
  rw [ItemType.checkName] at h
  split at h
  · cases h
  split at h
  next hletters =>
    exact plain_of_forall (List.all_eq_true.1 hletters) (by decide +kernel) (by decide +kernel)
  · cases h

theorem Uuid.plain_text (u : Uuid) : Plain u.text := by
  have hplain : ∀ d < 16, Json.hexDigit d ≠ '\t' ∧ Json.hexDigit d ≠ '\n' := by decide
  have hchars : ∀ x ∈ u.text.toList, (x != '\t' && x != '\n') = true := by
    intro x hx
    rcases Uuid.eq_of_mem_text hx with rfl | ⟨d, hd, rfl⟩
    · decide
    · simpa using hplain d hd
  exact plain_of_forall hchars (by decide) (by decide)

theorem IterationState.plain_name (state : IterationState) : Plain state.name := by
  cases state <;> exact ⟨by decide, by decide⟩

/-! ## Records of a store -/

open Store

/-- What is shown of an item has the id and the type of its row. -/
theorem plain_of_show {t : ItemType} {q : ItemRow} {w : WorkItem} (h : s.Named) (hq : q ∈ s.items)
    (hshow : ItemRow.show t q = .ok w) : Plain w.id ∧ Plain w.typeName := by
  obtain ⟨_, _, -, -, rfl⟩ := show_eq_ok.1 hshow
  exact ⟨plain_idText q.id, ItemType.plain_of_checkName (h.items q hq)⟩

theorem plain_of_showListed {q : ItemRow} {w : WorkItem} (h : s.Named) (hq : q ∈ s.items)
    (hshow : showListed s q = .ok w) : Plain w.id ∧ Plain w.typeName := by
  rw [showListed] at hshow
  split at hshow
  · cases hshow
  · obtain ⟨t, -, hshow⟩ := bind_eq_ok.1 hshow
    exact plain_of_show h hq hshow

open Store.Action in
/-- Where types bear proper names, the columns that callers cannot fill are plain. -/
theorem plain_or_free (h : s.Named) (hop : op.ShowsRecords) (hrun : op.run s = (.ok a, s')) :
    ∀ record ∈ Output.records a, ∀ x ∈ record, Plain x ∨ x ∈ Output.freeColumns a := by
  cases op with
  | loadItem id =>
    obtain ⟨w, hw, rfl⟩ := map_runOn_eq_ok.1 hrun
    obtain ⟨-, k, q, t, -, hlive, -, hshow⟩ := loadItem_runOn_eq_ok.1 hw
    obtain ⟨hid, htype⟩ := plain_of_show h (live_of_findLive hlive).1 hshow
    simp [Output.records, Output.itemColumns, Output.freeColumns, hid, htype]
  | listItems filter offset limit =>
    obtain ⟨⟨ws, total⟩, hws, rfl⟩ := map_runOn_eq_ok.1 hrun
    obtain ⟨-, p, params, rows, -, hrows, -, -, -, hshown⟩ :=
      listItems_runOn_eq_ok.1 (listWithin_runOn_eq_ok.1 hws).2
    intro record hrecord x hx
    obtain ⟨w, hw, rfl⟩ := List.mem_map.1 hrecord
    obtain ⟨q, hq, hshow⟩ := exists_of_mem_right hshown hw
    have hmem := (mem_liveItems.1 (selected_subset hrows (cut_subset _ _ _ hq))).1
    obtain ⟨hid, htype⟩ := plain_of_showListed h hmem hshow
    simp only [Output.itemColumns, List.mem_cons, List.not_mem_nil, or_false] at hx
    rcases hx with rfl | rfl | hx
    · exact .inl hid
    · exact .inl htype
    · exact .inr (List.mem_flatMap.2 ⟨w, hw, by simpa using hx⟩)
  | listIterations space =>
    obtain ⟨is, -, rfl⟩ := map_runOn_eq_ok.1 hrun
    intro record hrecord x hx
    obtain ⟨i, hi, rfl⟩ := List.mem_map.1 hrecord
    simp only [Output.iterationColumns, List.mem_cons, List.not_mem_nil, or_false] at hx
    rcases hx with rfl | rfl | rfl
    · exact .inl i.id.plain_text
    · exact .inl i.state.plain_name
    · exact .inr (List.mem_map_of_mem hi)
  | listIdentities =>
    obtain ⟨is, -, rfl⟩ := map_runOn_eq_ok.1 hrun
    intro record hrecord x hx
    obtain ⟨i, hi, rfl⟩ := List.mem_map.1 hrecord
    simp only [Output.identityColumns, List.mem_cons, List.not_mem_nil, or_false] at hx
    rcases hx with rfl | rfl
    · exact .inl i.id.plain_text
    · exact .inr (List.mem_map_of_mem hi)
  | _ => exact hop.elim

/-- What callers can fill stands in the columns. -/
theorem exists_record_of_free {x : String} (hx : x ∈ Output.freeColumns a) :
    ∃ record ∈ Output.records a, x ∈ record := by
  cases a with
  | item w =>
    exact ⟨_, List.mem_singleton_self _, List.mem_cons_of_mem _ (List.mem_cons_of_mem _ hx)⟩
  | items ws total =>
    obtain ⟨w, hw, hx⟩ := List.mem_flatMap.1 hx
    exact ⟨_, List.mem_map_of_mem hw, List.mem_cons_of_mem _ (List.mem_cons_of_mem _ hx)⟩
  | iterations is =>
    obtain ⟨i, hi, rfl⟩ := List.mem_map.1 hx
    exact ⟨_, List.mem_map_of_mem hi, by simp [Output.iterationColumns]⟩
  | identities is =>
    obtain ⟨i, hi, rfl⟩ := List.mem_map.1 hx
    exact ⟨_, List.mem_map_of_mem hi, by simp [Output.identityColumns]⟩
  | _ => cases hx

theorem all_plain_iff (h : s.Named) (hop : op.ShowsRecords) (hrun : op.run s = (.ok a, s')) :
    (∀ record ∈ Output.records a, ∀ x ∈ record, Plain x) ↔ ∀ x ∈ Output.freeColumns a, Plain x := by
  constructor
  · intro hall x hx
    obtain ⟨record, hrecord, hx⟩ := exists_record_of_free hx
    exact hall record hrecord x hx
  · intro hfree record hrecord x hx
    exact (plain_or_free h hop hrun record hrecord x hx).elim (·) (hfree x)

end Commands

/-! ## Command lines -/

section Hosts

variable {W : Type} {h : Host (StateM W)} {c : Command} {i : Invocation} {p : Project}
  {env : Environment} {place : String} {w : W}

theorem projectFor_eq_openAt (hc : c.ShowsRecords) :
    c.projectFor h place = Project.openAt h place := by
  cases c <;> first | rfl | exact hc.elim

/-- The records that a command shows are the tabbed lines of its output. -/
theorem exists_records (hc : i.command.ShowsRecords) (hmode : env.mode i.json = .text)
    (hexit : ((i.run h env place).run w).1.exit = 0) :
    ∃ p w' fresh r, (Project.openAt h place).run.run (h.clock.run w).2 = (.ok p, w') ∧
      ((i.command.script p.config.paging fresh).run p.store).1 = .ok r ∧
      ((i.run h env place).run w).1.output =
        String.join ((Output.records r.answer).map Output.tabbed) := by
  obtain ⟨p, w', fresh, r, hproject, hr, hwritten⟩ := runAt_eq_ok (runAt_ok_of_exit hexit)
  obtain ⟨op, s', hop, hrun⟩ := exists_operation hc hr
  rw [projectFor_eq_openAt hc] at hproject
  refine ⟨p, w', fresh, r, hproject, hr, ?_⟩
  rw [hwritten, hmode, written_eq_join hc (listed_of_run hop hrun)]

/-- **One line for each record.** A command that shows records and succeeds in text mode writes the
columns of its records, tabbed, in their order. What it writes can be taken apart again exactly if
every column is plain; for a store that came about by operations, titles and states of items, names
of iterations and names of people have to be. -/
theorem records_by_line (h : Host (StateM W)) (env : Environment) (place : String)
    (i : Invocation) (w : W) (hc : i.command.ShowsRecords) (hmode : env.mode i.json = .text)
    (hexit : ((i.run h env place).run w).1.exit = 0) :
    ∃ p w' fresh r, (Project.openAt h place).run.run (h.clock.run w).2 = (.ok p, w') ∧
      ((i.command.script p.config.paging fresh).run p.store).1 = .ok r ∧
      ((i.run h env place).run w).1.output =
        String.join ((Output.records r.answer).map Output.tabbed) ∧
      (Tabulates ((i.run h env place).run w).1.output (Output.records r.answer) ↔
        ∀ record ∈ Output.records r.answer, ∀ x ∈ record, Plain x) ∧
      (Store.Reachable p.store →
        (Tabulates ((i.run h env place).run w).1.output (Output.records r.answer) ↔
          ∀ x ∈ Output.freeColumns r.answer, Plain x)) := by
  obtain ⟨p, w', fresh, r, hproject, hr, houtput⟩ := exists_records hc hmode hexit
  obtain ⟨op, s', hop, hrun⟩ := exists_operation hc hr
  have htabulates : Tabulates ((i.run h env place).run w).1.output (Output.records r.answer) ↔
      ∀ record ∈ Output.records r.answer, ∀ x ∈ record, Plain x := by
    rw [houtput]
    exact tabulates_iff (Output.records_ne_nil r.answer)
  refine ⟨p, w', fresh, r, hproject, hr, houtput, htabulates, fun hreach => ?_⟩
  exact htabulates.trans (all_plain_iff (Store.named_of_reachable hreach) hop hrun)

end Hosts

/-! ## A title of two lines -/

theorem exit_steady {s : Store} {i : Invocation} (hc : i.command.ShowsRecords)
    (hscript : ∀ paging fresh, ∃ r, ((i.command.script paging fresh).run s).1 = .ok r)
    (env : Environment) (place : String) :
    ((i.run (Host.steady s) env place).run ()).1.exit = 0 := by
  have hproject := openAt_steady s place
  rw [← projectFor_eq_openAt hc] at hproject
  obtain ⟨fresh, hrun⟩ := runAt_of_openAt (env.mode i.json) hproject
  obtain ⟨r, hr⟩ := hscript {} fresh
  rw [hr] at hrun
  exact (run_of_runAt_ok hrun).1

/-- A run that makes an item with a title of two lines. -/
def twoLineRun : List Operation :=
  [.createType none "t" .empty,
    .createItem 0 "t" (Record.ofList [(WorkItem.titleField, .str "a\nb")]) "u"]

def twoLineStore : Store := (Store.run twoLineRun .empty).2

/-- The command line that shows the first item. -/
def showFirst : Invocation where
  command := .showItem "1"

theorem script_showFirst (paging : PagingConfig) (fresh : Fresh) :
    ∃ r, ((showFirst.command.script paging fresh).run twoLineStore).1 = .ok r ∧
      Output.records r.answer = [["1", "t", "-", "a\nb"]] := by
  have hrun : ((Command.askLast (.loadItem "1") .plain).run twoLineStore).1.toOption.map
      (fun r => Output.records r.answer) = some [["1", "t", "-", "a\nb"]] := by decide +kernel
  rcases hscript : ((Command.askLast (.loadItem "1") .plain).run twoLineStore).1 with f | r
  · rw [hscript] at hrun
    cases hrun
  · rw [hscript] at hrun
    exact ⟨r, hscript, Option.some.inj hrun⟩

theorem exit_showFirst (place : String) :
    ((showFirst.run (Host.steady twoLineStore) {} place).run ()).1.exit = 0 :=
  exit_steady (i := showFirst) trivial
    (fun paging fresh => (script_showFirst paging fresh).imp fun _ h => h.1) {} place

theorem records_showFirst {p : Project} {w' : Unit} {fresh : Fresh} {r : Result}
    (hproject : (Project.openAt (Host.steady twoLineStore) "/").run.run () = (.ok p, w'))
    (hr : ((showFirst.command.script p.config.paging fresh).run p.store).1 = .ok r) :
    Store.Reachable p.store ∧ Output.records r.answer = [["1", "t", "-", "a\nb"]] := by
  have hstore : p.store = twoLineStore := by
    rw [openAt_steady twoLineStore "/"] at hproject
    cases hproject
    rfl
  -- What is shown does not depend on what the host draws.
  obtain ⟨r', hr', hrecords⟩ := script_showFirst p.config.paging fresh
  rw [hstore, hr'] at hr
  cases hr
  exact ⟨⟨twoLineRun, hstore.symm⟩, hrecords⟩

theorem records_by_line_showFirst :
    ((showFirst.run (Host.steady twoLineStore) {} "/").run ()).1.output = "1\tt\t-\ta\nb\n" ∧
      ¬ Tabulates ((showFirst.run (Host.steady twoLineStore) {} "/").run ()).1.output
        [["1", "t", "-", "a\nb"]] := by
  obtain ⟨p, w', fresh, r, hproject, hr, houtput, hlines, -⟩ :=
    records_by_line (Host.steady twoLineStore) {} "/" showFirst () trivial (by decide +kernel)
      (exit_showFirst "/")
  obtain ⟨-, hrecords⟩ := records_showFirst hproject hr
  rw [hrecords] at houtput hlines
  refine ⟨houtput, fun htabulates => ?_⟩
  exact (hlines.1 htabulates _ List.mem_cons_self "a\nb" (by decide)).2 (by decide)

/-- A command that shows records in text mode need not write a line for each of them, even where
the store came about by operations. -/
theorem exists_record_not_by_line : ¬ ∀ (W : Type) (h : Host (StateM W)) (env : Environment)
    (place : String) (i : Invocation) (w : W), i.command.ShowsRecords →
    env.mode i.json = .text → ((i.run h env place).run w).1.exit = 0 →
    ∀ p w' fresh r, (Project.openAt h place).run.run (h.clock.run w).2 = (.ok p, w') →
      Store.Reachable p.store → ((i.command.script p.config.paging fresh).run p.store).1 = .ok r →
      Tabulates ((i.run h env place).run w).1.output (Output.records r.answer) := by
  intro hall
  have hc : showFirst.command.ShowsRecords := trivial
  have hmode : ({} : Environment).mode showFirst.json = .text := by decide +kernel
  have hexit := exit_showFirst "/"
  obtain ⟨p, w', fresh, r, hproject, hr, houtput⟩ := exists_records hc hmode hexit
  obtain ⟨hreach, hrecords⟩ := records_showFirst hproject hr
  have hlines := hall Unit _ _ _ _ _ hc hmode hexit p w' fresh r hproject hreach hr
  rw [houtput, tabulates_iff (Output.records_ne_nil _), hrecords] at hlines
  exact (hlines _ List.mem_cons_self "a\nb" (by decide)).2 (by decide)

end Backlog
