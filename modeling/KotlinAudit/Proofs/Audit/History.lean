import KotlinAudit.Proofs.Audit.Persistence
import KotlinAudit.Proofs.Baseline.Stored
import KotlinAudit.Proofs.FileTree.Arrival
import KotlinAudit.Proofs.Json.Torn

/-! Recording runs in a history. Whatever its file has held, the new entry is loaded in front of all entries
that were loaded before, if and only if the last line of the text is blank or has ended, no identifier of the
entry breaks its line, and the entry can be read back at all. -/
namespace KotlinAudit

open Json (Side)

namespace HistoryEntry

/-- Nothing without a timestamp is an entry. -/
theorem value?_readStored_of_lacks {json : Json} (h : Json.Lacks "timestamp" json) :
    (readStored json).value? = none := by
  cases json with
  | object fields =>
    have hnone := Keyed.lookup_ofList_eq_none (h fields rfl)
    simp [readStored, Record.fields, hnone]
  | null | bool | int | float | text | array => rfl

theorem ofLine?_of_read {line : List Char}
    (h : ∀ json, Json.read .record line = .ok json → Json.Lacks "timestamp" json) :
    ofLine? line = none := by
  unfold ofLine?
  cases hread : Json.read .record line with
  | error fault => rfl
  | ok json => exact value?_readStored_of_lacks (h json hread)

/-- An entry is written with its timestamp first. -/
theorem exists_compact (entry : HistoryEntry) : ∃ rest,
    entry.toJson.compact = '\x7b' :: '"' :: ("timestamp".toList ++ '"' :: rest) :=
  ⟨_, rfl⟩

end HistoryEntry

namespace HistoryLine

variable {entry : HistoryEntry} {line text : List Char} {side : Side}

theorem entryIn_of_ofLine? (h : HistoryEntry.ofLine? line = none) : entryIn line = none := by
  rw [entryIn, h, ite_self]

theorem entryIn_of_read (h : ∀ json, Json.read .record line ≠ .ok json) : entryIn line = none :=
  entryIn_of_ofLine? (HistoryEntry.ofLine?_of_read fun json hread => absurd hread (h json))

/-- Where a line begins inside of a text there is no entry. -/
theorem entryIn_of_inside (h : Side.inside.walk line = some side) : entryIn line = none := by
  refine entryIn_of_ofLine? (HistoryEntry.ofLine?_of_read fun json hread => ?_)
  have hmark : ∀ c ∈ "timestamp".toList.head?, Json.isMark c = false := fun | _, rfl => rfl
  exact Json.lacks_of_read hmark (by decide) h hread

/-- Behind a cut inside of a text there are no entries, on however many lines. -/
theorem filterMap_lines_of_inside (hreturn : '\r' ∉ text) (h : Side.inside.walk text = some side) :
    (Text.lines (text ++ ['\n'])).filterMap entryIn = [] := by
  induction hlength : text.length using Nat.strongRecOn generalizing text with
  | ind length ih =>
    subst hlength
    by_cases hbroken : Text.Unbroken text
    · rw [Text.lines_append hbroken, List.filterMap_cons_none (entryIn_of_inside h)]
      rfl
    · obtain ⟨front, c, rest, rfl, hfront, hc⟩ := Text.exists_break hbroken
      obtain ⟨hbefore, hafter⟩ := Side.inside_of_walk hc h
      simp only [List.mem_append, List.mem_cons, not_or] at hreturn
      obtain ⟨-, hne, hrest⟩ := hreturn
      rw [List.append_assoc, List.cons_append, Text.lines_append_break hfront hc (Ne.symm hne),
        List.filterMap_cons_none (entryIn_of_inside hbefore)]
      exact ih rest.length (by simp; omega) hrest hafter rfl

theorem walk_compact (h : entry.Formed) :
    Side.outside.walk entry.toJson.compact = some .outside :=
  Side.walk_compact_object (HistoryEntry.every_rounded h)

/-- The word "timestamp" has a character that no value has. -/
theorem foreign_timestamp : ∃ c ∈ "timestamp".toList, Json.Foreign c := ⟨'m', by decide, by decide⟩

theorem endsWord_timestamp : ∀ c ∈ "timestamp".toList, Json.endsWord c = false :=
  Json.forall_mem_of_all (by decide)

/-- An entry that breaks its line is lost, and nothing else is read from its lines. -/
theorem filterMap_lines_of_broken (h : entry.Formed) (hline : Text.Unbroken line)
    (hbroken : ¬Text.Unbroken entry.toJson.compact) :
    (Text.lines (line ++ entry.line.toList)).filterMap entryIn = [] := by
  obtain ⟨front, c, rest, hcompact, hfront, hc⟩ := Text.exists_break hbroken
  have hreturn := Json.return_notMem_compact (HistoryEntry.every_rounded h)
  have hwalk := walk_compact h
  rw [hcompact] at hreturn hwalk
  obtain ⟨hbefore, hafter⟩ := Side.inside_of_walk hc hwalk
  simp only [List.mem_append, List.mem_cons, not_or] at hreturn
  obtain ⟨-, hne, hrest⟩ := hreturn
  -- the line breaks behind the key of the timestamp
  obtain ⟨more, hopening⟩ := entry.exists_compact
  obtain ⟨others, hfronts⟩ : ∃ others,
      front = '\x7b' :: '"' :: ("timestamp".toList ++ '"' :: others) := by
    have hquiet : Text.Unbroken ('\x7b' :: '"' :: ("timestamp".toList ++ ['"'])) :=
      Json.forall_mem_of_all (by decide)
    have hwhole : front ++ c :: rest =
        ('\x7b' :: '"' :: ("timestamp".toList ++ ['"'])) ++ more := by
      rw [← hcompact, hopening]
      simp
    obtain ⟨others, hothers⟩ := Text.isPrefix_of_break hquiet hc hwhole
    exact ⟨others, by rw [← hothers]; simp⟩
  obtain ⟨d, hmem, hforeign⟩ := foreign_timestamp
  have hnone : entryIn (line ++ front) = none := by
    refine entryIn_of_read fun json => ?_
    rw [hfronts] at hbefore ⊢
    exact Json.read_front_ne_ok endsWord_timestamp hmem hforeign hbefore
  rw [HistoryEntry.line, String.toList_ofList, hcompact, List.append_assoc, List.cons_append,
    ← List.append_assoc, Text.lines_append_break (hline.append hfront) hc (Ne.symm hne),
    List.filterMap_cons_none hnone]
  exact filterMap_lines_of_inside hrest hafter

/-- A line that does not break is blank for a reader of values exactly if it has only spaces and tabs. -/
theorem blank_iff (hline : Text.Unbroken line) :
    (∀ c ∈ line, Json.begin c = ([], .between)) ↔ ∀ c ∈ line, c = ' ' ∨ c = '\t' := by
  refine forall₂_congr fun c hc => ?_
  rw [Json.begin_eq_blank_iff]
  have hbreak := hline c hc
  constructor
  · rintro (rfl | rfl | rfl | rfl)
    · exact .inl rfl
    · cases hbreak
    · cases hbreak
    · exact .inr rfl
  · rintro (rfl | rfl)
    · exact .inl rfl
    · exact .inr (.inr (.inr rfl))

/-- Behind other text than blanks no entry is read. -/
theorem entryIn_append_compact (h : entry.Formed) (hline : Text.Unbroken line)
    [Decidable ((∀ c ∈ line, c = ' ' ∨ c = '\t') ∧ entry.Legible)] :
    entryIn (line ++ entry.toJson.compact) =
      if (∀ c ∈ line, c = ' ' ∨ c = '\t') ∧ entry.Legible then some entry else none := by
  by_cases hblank : ∀ c ∈ line, c = ' ' ∨ c = '\t'
  · have hread : Json.read .record (line ++ entry.toJson.compact) =
        Json.read .record entry.toJson.compact :=
      Json.read_blanks_append ((blank_iff hline).2 hblank) _
    have hmem : '\x7b' ∈ line ++ entry.toJson.compact :=
      List.mem_append_right _ List.mem_cons_self
    rw [entryIn, Text.isEmpty_trim hmem (by decide), if_neg Bool.false_ne_true,
      HistoryEntry.ofLine?, hread, ← HistoryEntry.ofLine?, HistoryEntry.ofLine?_compact h]
    exact if_congr ⟨fun hlegible => ⟨hblank, hlegible⟩, fun hboth => hboth.2⟩ rfl rfl
  · obtain ⟨rest, hopening⟩ := entry.exists_compact
    obtain ⟨d, hmem, hforeign⟩ := foreign_timestamp
    rw [if_neg fun hboth => hblank hboth.1]
    refine entryIn_of_read fun json hread => hblank ((blank_iff hline).1 ?_)
    exact Json.blank_of_read (HistoryEntry.every_rounded h) hopening endsWord_timestamp hmem hforeign
      hread

/-- Nothing is read from a line of spaces and tabs. -/
theorem entryIn_blank (h : ∀ c ∈ line, c = ' ' ∨ c = '\t') : entryIn line = none := by
  have htrim : (Text.trim line).isEmpty = true := by
    have hblank : ∀ c ∈ line, Text.isBlank c = true := by
      intro c hc
      rcases h c hc with rfl | rfl <;> decide
    rw [List.isEmpty_iff, Text.trim, Text.trimBy, Text.trimLeft, List.dropWhile_eq_nil_iff.2 hblank]
    rfl
  rw [entryIn, if_pos htrim]

/-- The line of an entry behind an open line: nothing is lost and the entry is added exactly if the open
line is blank, no identifier breaks the line, and the entry can be read back. -/
theorem filterMap_lines_append_iff (h : entry.Formed) (hline : Text.Unbroken line) :
    (Text.lines (line ++ entry.line.toList)).filterMap entryIn =
        (Text.lines line).filterMap entryIn ++ [entry] ↔
      (∀ c ∈ line, c = ' ' ∨ c = '\t') ∧ entry.OneLine ∧ entry.Legible := by
  by_cases hone : entry.OneLine
  · have hunbroken := (unbroken_compact_iff h).2 hone
    have hlines : Text.lines (line ++ entry.line.toList) = [line ++ entry.toJson.compact] := by
      rw [HistoryEntry.line, String.toList_ofList, ← List.append_assoc,
        Text.lines_append (hline.append hunbroken)]
      rfl
    rw [hlines, Text.lines_unbroken hline]
    simp only [hone, true_and]
    by_cases hkept : (∀ c ∈ line, c = ' ' ∨ c = '\t') ∧ entry.Legible
    · have hbefore : (if line = [] then [] else [line]).filterMap entryIn = [] := by
        split
        · rfl
        · rw [List.filterMap_cons_none (entryIn_blank hkept.1)]
          rfl
      have hentry := entryIn_append_compact h hline
      rw [if_pos hkept] at hentry
      rw [List.filterMap_cons_some hentry, hbefore]
      exact iff_of_true rfl hkept
    · have hentry := entryIn_append_compact h hline
      rw [if_neg hkept] at hentry
      rw [List.filterMap_cons_none hentry]
      refine iff_of_false ?_ hkept
      exact fun heq => List.append_ne_nil_of_right_ne_nil _ (List.cons_ne_nil _ _) heq.symm
  · have hbroken : ¬Text.Unbroken entry.toJson.compact :=
      fun hunbroken => hone ((unbroken_compact_iff h).1 hunbroken)
    rw [filterMap_lines_of_broken h hline hbroken]
    refine iff_of_false ?_ fun hall => hone hall.2.1
    exact fun heq => List.append_ne_nil_of_right_ne_nil _ (List.cons_ne_nil _ _) heq.symm

/-- What is read from a text that ends with a line break stays, whatever is put behind it. -/
theorem filterMap_ofText_append {front : List Char} (hclosed : Text.Closed front)
    (hreturn : '\r' ∉ text) (hhead : text.head? ≠ some '\n') :
    (ofText (Text.withLineFeeds (front ++ text))).filterMap entry? =
      (Text.lines (Text.withLineFeeds front)).filterMap entryIn ++
        (Text.lines text).filterMap entryIn := by
  rw [Text.withLineFeeds_append hhead, Text.withLineFeeds_eq hreturn, filterMap_ofText,
    Text.lines_append_of_closed hclosed.withLineFeeds (Text.return_notMem_withLineFeeds front),
    List.filterMap_append]

theorem return_notMem_line (h : entry.Formed) : '\r' ∉ entry.line.toList := by
  rw [HistoryEntry.line, String.toList_ofList, List.mem_append, not_or]
  exact ⟨Json.return_notMem_compact (HistoryEntry.every_rounded h), by decide⟩

/-- The same for the line of an entry behind a whole history, of which only the last line matters. -/
theorem filterMap_ofText_append_iff (h : entry.Formed) (text : List Char) :
    (ofText (Text.withLineFeeds (text ++ entry.line.toList))).filterMap entry? =
        (ofText (Text.withLineFeeds text)).filterMap entry? ++ [entry] ↔
      (∀ c ∈ Text.openLine text, c = ' ' ∨ c = '\t') ∧ entry.OneLine ∧ entry.Legible := by
  obtain ⟨front, hclosed, htext⟩ := Text.exists_closed text
  have hopen := Text.unbroken_openLine text
  have hreturn : '\r' ∉ Text.openLine text := Text.notMem_of_unbroken hopen
  have hline : entry.line.toList.head? ≠ some '\n' := by
    rw [HistoryEntry.line, String.toList_ofList]
    rintro ⟨⟩
  have hhead : (Text.openLine text).head? ≠ some '\n' := by
    have hnil := Text.head?_append_ne hopen (show ([] : List Char).head? ≠ some '\n' by rintro ⟨⟩)
    rwa [List.append_nil] at hnil
  have hbefore := filterMap_ofText_append hclosed hreturn hhead
  have hafter := filterMap_ofText_append hclosed
    (fun hmem => (List.mem_append.1 hmem).elim hreturn (return_notMem_line h))
    (Text.head?_append_ne hopen hline)
  rw [← htext] at hbefore
  rw [← List.append_assoc, ← htext] at hafter
  rw [hbefore, hafter, List.append_assoc, List.append_cancel_left_eq]
  exact filterMap_lines_append_iff h hopen

end HistoryLine


namespace Store

variable {store : Store} {workspace after : Workspace} {tree : FileTree} {prior : Option String}
  {metrics : Metrics} {findings : List Finding} {old : Option Baseline} {entry : HistoryEntry}

/-- The text in the file of the history, none where nothing stands at its path. Making its directory
must not bring another history to light then, as it can on a way that leads back out of a directory that
is not there yet. -/
def Logs (store : Store) (tree : FileTree) : Option String → Prop
  | none => tree.find store.historyPath = .error .missing ∧
      (tree.makeDirectory store.directory).1.find store.historyPath = .error .missing
  | some text => ∃ modified, tree.node store.historyPath = .ok (.file (.text text) modified)

/-! ### Loading -/

theorem readHistory_of_file {text : String} {modified : Int}
    (h : tree.node store.historyPath = .ok (.file (.text text) modified)) :
    store.readHistory tree = .ok (.ok (HistoryLine.ofText (Text.withLineFeeds text.toList))) := by
  have hfile : tree.hasFile store.historyPath = .ok true := by
    rw [FileTree.hasFile, FileTree.node?, h]
    rfl
  rw [readHistory, hfile, FileTree.readText, FileTree.content, h]
  simp only [Except.map, if_true, String.toList_ofList]

theorem readHistory_of_missing (h : tree.find store.historyPath = .error .missing) :
    store.readHistory tree = .ok (.ok []) := by
  have hfile : tree.hasFile store.historyPath = .ok false := by
    simp [FileTree.hasFile, FileTree.node?, FileTree.node, h, Except.map]
  rw [readHistory, hfile]
  rfl

theorem Logs.readHistory_eq (h : store.Logs tree prior) : store.readHistory tree =
    .ok (.ok (HistoryLine.ofText (Text.withLineFeeds (prior.getD "").toList))) := by
  cases prior with
  | none => exact readHistory_of_missing h.1
  | some text =>
    obtain ⟨modified, hnode⟩ := h
    exact readHistory_of_file hnode

theorem loadHistory_of_lines {lines : List HistoryLine}
    (h : store.readHistory workspace.tree = .ok (.ok lines)) :
    (store.loadHistory.run workspace).1 = .ok (lines.filterMap HistoryLine.entry?).reverse := by
  obtain ⟨_, hrun⟩ := run_loadHistory_of_lines h
  rw [hrun]

/-! ### Recording -/

/-- A run that is recorded has an entry, which has been written behind what the file held. -/
theorem deliver_of_record
    (h : (store.record metrics findings old).run workspace = (.ok entry, after)) :
    entryOf workspace.clock.stamp metrics findings old = .ok entry ∧ ∃ modified,
      workspace.tree.deliver store.directory ⟨store.historyPath, modified,
        fun held => (held.getD (.text "")).append entry.line⟩ = (after.tree, .ok ()) := by
  cases hentry : entryOf workspace.clock.stamp metrics findings old with
  | error error =>
    rw [run_record_of_error hentry] at h
    cases h
  | ok made =>
    cases hdeliver : workspace.tree.deliver store.directory
        ⟨store.pathOf .history, workspace.clock.afterStamp.time * 1000000,
          fun held => (held.getD (.text "")).append made.line⟩ with
    | mk tree outcome =>
      obtain ⟨notices, hrun, -⟩ := Audit.run_record_eq store hentry hdeliver
      rw [hrun] at h
      cases outcome with
      | error error => cases h
      | ok done =>
        cases h
        exact ⟨rfl, _, hdeliver⟩

/-- A run whose entry can be made and written is recorded. -/
theorem record_of_deliver {made : FileTree}
    (hentry : entryOf workspace.clock.stamp metrics findings old = .ok entry)
    (hdeliver : workspace.tree.deliver store.directory
      ⟨store.historyPath, workspace.clock.afterStamp.time * 1000000,
        fun held => (held.getD (.text "")).append entry.line⟩ = (made, .ok ())) :
    ∃ after, (store.record metrics findings old).run workspace = (.ok entry, after) := by
  obtain ⟨notices, hrun, -⟩ := Audit.run_record_eq store hentry hdeliver
  exact ⟨_, hrun⟩

/-- The file that is written is the one that was read, or there was none. -/
theorem Logs.target_eq {made : FileTree} (h : store.Logs tree prior) (hhere : tree.here.isAbsolute)
    (hmake : tree.makeDirectory store.directory = (made, .ok ())) {names : List String}
    {held : Option Content} (htarget : made.target store.historyPath = .ok (names, held)) :
    held = prior.map .text ∧ made.find store.historyPath ≠ .error .tooManyLinks := by
  have hmade := FileTree.makeDirectory_made hmake
  have hmadeHere : made.here.isAbsolute := by
    rw [hmade.1]
    exact hhere
  cases prior with
  | none =>
    have hmissing : made.find store.historyPath = .error .missing := by
      have hlater := h.2
      rwa [hmake] at hlater
    have hlinks : made.find store.historyPath ≠ .error .tooManyLinks := by
      rw [hmissing]
      exact nofun
    cases held with
    | none => exact ⟨rfl, hlinks⟩
    | some content =>
      have hfound := FileTree.find_of_target_some hmadeHere htarget hlinks
      cases hmissing.symm.trans hfound
  | some text =>
    obtain ⟨modified, hnode⟩ := h
    obtain ⟨entries, hdirectory⟩ := FileTree.leads_of_node_child hhere hnode
    have hsame : made = tree := by
      have hagain : tree.makeDirectory store.directory = (tree, .ok ()) :=
        FileTree.makeAll_of_directory hdirectory
      exact (Prod.mk.inj (hmake.symm.trans hagain)).1
    subst hsame
    obtain ⟨hpath, place, hplace, hfile⟩ := FileTree.exists_place_of_node hnode
    have hfound := FileTree.find_of_place hpath hplace
    have hlinks : made.find store.historyPath ≠ .error .tooManyLinks := by
      rw [hfound]
      exact nofun
    obtain rfl := FileTree.eq_of_target_of_find hmadeHere htarget hfound
    rcases (FileTree.seat_of_target htarget).before with ⟨-, hnone⟩ | ⟨content, time, rfl, hcontent⟩
    · cases hnone.symm.trans hfile
    · obtain ⟨rfl, -⟩ := Node.file.inj (Option.some.inj (hcontent.symm.trans hfile))
      exact ⟨rfl, hlinks⟩

/-- Recording a run puts the line of its entry behind the text of the history. -/
theorem Logs.node_of_record (h : store.Logs workspace.tree prior)
    (hhere : workspace.tree.here.isAbsolute)
    (hrecord : (store.record metrics findings old).run workspace = (.ok entry, after)) :
    ∃ modified, after.tree.node store.historyPath =
      .ok (.file (.text (prior.getD "" ++ entry.line)) modified) := by
  obtain ⟨-, modified, hdeliver⟩ := deliver_of_record hrecord
  cases hmake : workspace.tree.makeDirectory store.directory with
  | mk made outcome =>
    cases outcome with
    | error error =>
      rw [FileTree.deliver_of_failed hmake] at hdeliver
      cases hdeliver
    | ok done =>
      rw [FileTree.deliver_of_made hmake] at hdeliver
      obtain ⟨hafter, hadmitted⟩ := Prod.mk.inj hdeliver
      obtain ⟨names, held, htarget⟩ := FileTree.admission_eq_ok.1 hadmitted
      obtain ⟨rfl, hlinks⟩ := h.target_eq hhere hmake htarget
      have hmadeHere : made.here.isAbsolute := by
        rw [(FileTree.makeDirectory_made hmake).1]
        exact hhere
      have hfound := FileTree.find_edited hmadeHere htarget hlinks
      have hfile := FileTree.at?_edited htarget
      rw [hafter] at hfound hfile
      refine ⟨modified, ?_⟩
      rw [FileTree.node_of_find hfound, hfile]
      cases prior <;> rfl

/-- After a run has been recorded its entry is loaded in front of all entries that were loaded before, if
and only if what stood behind the last line break of the history was blank, no identifier has a line
break that is written as it is, and the entry can be read back. -/
theorem loadHistory_record_iff (hhere : workspace.tree.here.isAbsolute)
    (hprior : store.Logs workspace.tree prior) (hmetrics : metrics.Regular)
    (hrecord : (store.record metrics findings old).run workspace = (.ok entry, after)) :
    ∃ before, (store.loadHistory.run workspace).1 = .ok before ∧
      ((store.loadHistory.run after).1 = .ok (entry :: before) ↔
        (∀ c ∈ Text.openLine (prior.getD "").toList, c = ' ' ∨ c = '\t') ∧
          entry.OneLine ∧ entry.Legible) := by
  obtain ⟨hentry, -⟩ := deliver_of_record hrecord
  obtain ⟨modified, hnode⟩ := hprior.node_of_record hhere hrecord
  have hformed := formed_of_entryOf hentry hmetrics
  have hafter := loadHistory_of_lines (readHistory_of_file hnode)
  refine ⟨_, loadHistory_of_lines hprior.readHistory_eq, ?_⟩
  rw [hafter, Except.ok.injEq, ← List.reverse_concat, List.reverse_inj, String.toList_append]
  exact HistoryLine.filterMap_ofText_append_iff hformed (prior.getD "").toList

/-- A history with a line that is no entry and a last line of blanks that has not ended. -/
def openHistory : List (String × Node) := [("history.jsonl", .file (.text "no entry\n \t") 0)]

def openWorkspace : Workspace := .ofTree (Audit.emptyTree openHistory) ⟨0, 1⟩

/-- A finding in whose identifier there is a line feed. -/
def brokenFinding : Finding := { (default : Finding) with id := "a\nb" }

/-- The entry of a run with this finding. -/
def brokenEntry : HistoryEntry := ⟨1, .empty, 1, ["a\nb"], none⟩

theorem brokenEntry_legible : brokenEntry.Legible where
  integers value hvalue := by
    have hdigit : ∀ value ∈ brokenEntry.timestamp :: brokenEntry.findingCount ::
        brokenEntry.metrics.integers, value.natAbs < 10 := by decide
    exact Json.brief_of_digit (hdigit value hvalue)
  changes := nofun

theorem openHistory_unlinked : Audit.Unlinked openHistory :=
  Audit.unlinked_of_forall fun entry hentry link => by
    rw [List.mem_singleton.1 hentry]
    exact nofun

theorem record_openWorkspace : ∃ after,
    (Audit.sample.store.record .empty [brokenFinding] none).run openWorkspace =
      (.ok brokenEntry, after) := by
  have hwritable : (Audit.emptyTree openHistory).Writable Audit.sample.store.historyPath :=
    (Audit.empty_writable openHistory_unlinked .history).2 rfl
  have hmake : (Audit.emptyTree openHistory).makeDirectory Audit.sample.store.directory =
      (Audit.emptyTree openHistory, .ok ()) :=
    FileTree.makeDirectory_of_directory rfl Audit.empty_out
  have hdeliver := FileTree.deliver_of_made hmake
    ⟨Audit.sample.store.historyPath, openWorkspace.clock.afterStamp.time * 1000000,
      fun held => (held.getD (.text "")).append brokenEntry.line⟩
  rw [FileTree.admission_eq_ok.2 hwritable] at hdeliver
  exact record_of_deliver rfl hdeliver

/-- Behind an open line of blanks the entry of a run is loaded, also with a line feed in an identifier. -/
theorem loadHistory_record_blank : ∃ after before,
    (Audit.sample.store.record .empty [brokenFinding] none).run openWorkspace =
      (.ok brokenEntry, after) ∧
    (Audit.sample.store.loadHistory.run openWorkspace).1 = .ok before ∧
    (Audit.sample.store.loadHistory.run after).1 = .ok (brokenEntry :: before) := by
  obtain ⟨after, hrecord⟩ := record_openWorkspace
  have hprior : Audit.sample.store.Logs openWorkspace.tree (some "no entry\n \t") :=
    ⟨0, FileTree.node_child Audit.empty_out (Audit.empty_admits openHistory .history)
      (openHistory_unlinked .history)⟩
  have hblank : ∀ c ∈ Text.openLine "no entry\n \t".toList, c = ' ' ∨ c = '\t' := by
    rw [show Text.openLine "no entry\n \t".toList = [' ', '\t'] by decide]
    simp
  obtain ⟨before, hbefore, hafter⟩ :=
    loadHistory_record_iff rfl hprior Metrics.empty_regular hrecord
  exact ⟨after, before, hrecord, hbefore, hafter.2 ⟨hblank, by decide, brokenEntry_legible⟩⟩

end Store
end KotlinAudit
