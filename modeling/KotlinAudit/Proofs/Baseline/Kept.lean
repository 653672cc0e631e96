import KotlinAudit.Audit.Run
import KotlinAudit.Proofs.Baseline.Compare
import KotlinAudit.Proofs.FileTree.Deleting

/-! A store in a directory of files: what it holds of a baseline and of a history, and how writing
changes that. -/
namespace KotlinAudit

open FileTree (held)

namespace Baseline

theorem unbroken_ofFindings (timestamp : Int) (metrics : Metrics) {findings : List Finding}
    (h : ∀ finding ∈ findings, Text.Unbroken finding.id.toList) :
    ∀ id ∈ (ofFindings timestamp metrics findings).findingIds, Text.Unbroken id.toList := by
  intro id hid
  obtain ⟨finding, hfinding, rfl⟩ := List.mem_map.1 (Text.mem_sortedSet.1 hid)
  exact h finding hfinding

end Baseline

namespace Store

variable {timestamp : Int} {metrics : Metrics} {findings : List Finding} {old : Option Baseline}
  {entry : HistoryEntry}

/-- The parts of the entry of a run, if there is one. -/
theorem entryOf_eq_ok (h : entryOf timestamp metrics findings old = .ok entry) :
    entry.metrics = metrics ∧ entry.findingIds = findings.map (·.id) ∧
      ∀ comparison, entry.comparison = some comparison → ∃ baseline, old = some baseline ∧
        baseline.compare metrics (some (findings.map (·.id))) = .ok comparison := by
  obtain ⟨comparison, hcomparison, h⟩ := Outcome.bind_eq_ok.1 h
  cases h
  refine ⟨rfl, rfl, fun each heach => ?_⟩
  dsimp only at heach
  subst heach
  cases old with
  | none => cases hcomparison
  | some baseline =>
    rw [Option.mapM_some] at hcomparison
    obtain ⟨made, hmade, heq⟩ := Outcome.map_eq_ok.1 hcomparison
    cases heq
    exact ⟨baseline, rfl, hmade⟩

theorem formed_of_entryOf (h : entryOf timestamp metrics findings old = .ok entry)
    (hmetrics : metrics.Regular) : entry.Formed := by
  obtain ⟨hsame, -, hcomparison⟩ := entryOf_eq_ok h
  refine ⟨hsame ▸ hmetrics, fun comparison heach => ?_⟩
  obtain ⟨baseline, -, hmade⟩ := hcomparison comparison heach
  exact Baseline.formed_of_compare hmade

/-- The entry of a run, if there is one, is one that can be written. -/
theorem regular_of_entryOf (h : entryOf timestamp metrics findings old = .ok entry)
    (hmetrics : metrics.Regular) (hids : ∀ finding ∈ findings, Text.Unbroken finding.id.toList)
    (hbaseline : ∀ each, old = some each → ∀ id ∈ each.findingIds, Text.Unbroken id.toList) :
    entry.Regular := by
  have hunbroken : ∀ id ∈ findings.map (·.id), Text.Unbroken id.toList := List.forall_mem_map.2 hids
  obtain ⟨hsame, hfindings, hcomparison⟩ := entryOf_eq_ok h
  refine ⟨hsame ▸ hmetrics, hfindings ▸ hunbroken, fun comparison heach => ?_⟩
  obtain ⟨baseline, hold, hmade⟩ := hcomparison comparison heach
  exact Baseline.regular_of_compare hmade (hbaseline baseline hold) hunbroken

/-- The names of the files that runs write. -/
def fileNames : List String :=
  ["baseline.json", "history.jsonl", "analysis-report.md", "analysis-report-incremental.md",
    "analysis-report-filtered.md"]

/-- The text of the history's file, if there is one. -/
def historyContent (entries : List HistoryEntry) : Option Content :=
  if entries = [] then none else some (.text (String.ofList (HistoryLine.written entries)))

/-- The history grows by the line of a new entry. -/
theorem append_historyContent (entries : List HistoryEntry) (entry : HistoryEntry) :
    some (((historyContent entries).getD (.text "")).append entry.line) =
      historyContent (entries ++ [entry]) := by
  have hgrown : entries ++ [entry] ≠ [] := List.append_ne_nil_of_right_ne_nil _ (List.cons_ne_nil _ _)
  have hwritten : HistoryLine.written (entries ++ [entry]) =
      HistoryLine.written entries ++ entry.line.toList := by
    rw [HistoryLine.written, List.flatMap_append, List.flatMap_singleton]
    rfl
  rw [historyContent, historyContent, if_neg hgrown, hwritten, String.ofList_append,
    String.ofList_toList]
  by_cases hempty : entries = []
  · rw [if_pos hempty, hempty]
    rfl
  · rw [if_neg hempty]
    rfl

/-- A directory of files that holds a baseline and the entries of a history, and into which runs can
write. -/
structure Holds (store : Store) (tree : FileTree) (entries : List HistoryEntry)
    (baseline : Option Baseline) : Prop where
  admits : ∀ name ∈ fileNames, tree.Admits store.directory name
  shelf : ∃ files, tree.Shelf store.directory files ∧ (files.map Prod.fst).Nodup ∧
    held files "baseline.json" = baseline.map (fun baseline => .text baseline.document) ∧
    held files "history.jsonl" = historyContent entries
  unbroken : ∀ each, baseline = some each → ∀ id ∈ each.findingIds, Text.Unbroken id.toList
  baseline : ∀ each, baseline = some each → each.Regular
  entries : ∀ entry ∈ entries, entry.Regular

variable {store : Store} {workspace : Workspace} {entries : List HistoryEntry}
  {baseline : Option Baseline}

/-! ### What the actions do with what is stored -/

theorem loadBaseline_run (store : Store) (workspace : Workspace) : store.loadBaseline.run workspace =
    StateT.run (m := Id) (match store.readBaseline workspace.tree with
      | .ok baseline => pure (.ok baseline)
      | .error (.place error) => pure (.error error)
      | .error fault => do
        Workspace.say (.warn (fault.message store.baselinePath))
        pure (.ok none)) workspace := by
  rw [loadBaseline]
  rfl

theorem loadHistory_run (store : Store) (workspace : Workspace) : store.loadHistory.run workspace =
    StateT.run (m := Id) (match store.readHistory workspace.tree with
      | .error error => pure (.error error)
      | .ok (.ok lines) => do
        Workspace.sayAll (lines.filterMap store.malformedNotice?)
        pure (.ok (lines.filterMap HistoryLine.entry?).reverse)
      | .ok (.error error) => do
        Workspace.say (.warn ("Failed to load history " ++ store.historyPath.text ++ ": " ++
          error.message))
        pure (.ok [])) workspace := by
  rw [loadHistory]
  rfl

theorem saveBaseline_run (store : Store) (metrics : Metrics) (findings : List Finding)
    (workspace : Workspace) : (store.saveBaseline metrics findings).run workspace =
    StateT.run (m := Id) (do
      match ← Workspace.writeText store.baselinePath
          (Baseline.ofFindings workspace.clock.stamp metrics findings).document with
      | .error error => return .error (.baseline store.baselinePath error)
      | .ok () =>
        Workspace.say (.ok ("Baseline saved to " ++ store.baselinePath.text))
        return .ok (.ofFindings workspace.clock.stamp metrics findings))
      { workspace with clock := workspace.clock.afterStamp } := rfl

theorem record_run (store : Store) (metrics : Metrics) (findings : List Finding) (old : Option Baseline)
    (workspace : Workspace) : (store.record metrics findings old).run workspace =
    StateT.run (m := Id) (match entryOf workspace.clock.stamp metrics findings old with
      | .error error => pure (.error (.change error))
      | .ok entry => do
        match ← Workspace.appendText store.historyPath entry.line with
        | .error error => return .error (.persist (.history store.historyPath error))
        | .ok () =>
          Workspace.say (.debug ("history entry appended to " ++ store.historyPath.text))
          return .ok entry) { workspace with clock := workspace.clock.afterStamp } := rfl

/-- Recording an entry, once there is one. -/
theorem record_run_of_entryOf {metrics : Metrics} {findings : List Finding} {old : Option Baseline}
    {entry : HistoryEntry} (h : entryOf workspace.clock.stamp metrics findings old = .ok entry) :
    (store.record metrics findings old).run workspace = StateT.run (m := Id) (do
      match ← Workspace.appendText store.historyPath entry.line with
      | .error error => return .error (.persist (.history store.historyPath error))
      | .ok () =>
        Workspace.say (.debug ("history entry appended to " ++ store.historyPath.text))
        return .ok entry) { workspace with clock := workspace.clock.afterStamp } := by
  rw [record_run, h]

/-! ### Loading -/

variable {tree : FileTree} {files : List (String × Node)}

theorem readBaseline_of_shelf (hshelf : tree.Shelf store.directory files)
    (hname : tree.Admits store.directory "baseline.json")
    (hbaseline : held files "baseline.json" =
      baseline.map fun baseline => .text baseline.document)
    (hregular : ∀ each, baseline = some each → each.Regular) :
    store.readBaseline tree = baseline.elim (.ok none) fun each =>
      if each.Legible then .ok (some each) else .error (.invalid 1) := by
  have hfile := hshelf.hasFile hname
  unfold readBaseline baselinePath
  rw [hfile, hbaseline]
  cases baseline with
  | none => rfl
  | some each =>
    have hregular := hregular each rfl
    have hcontent := hshelf.content hname hbaseline
    unfold FileTree.readText
    simp only [Option.map_some, Option.isSome_some, hcontent, Option.elim_some,
      String.toList_ofList, Baseline.withLineFeeds_document hregular,
      Baseline.ofText_document hregular]
    split_ifs <;> rfl

/-- The baseline that is loaded is the one in its file, if it can be read back. -/
theorem run_loadBaseline_of_shelf (hshelf : workspace.tree.Shelf store.directory files)
    (hname : workspace.tree.Admits store.directory "baseline.json")
    (hbaseline : held files "baseline.json" =
      baseline.map fun baseline => .text baseline.document)
    (hregular : ∀ each, baseline = some each → each.Regular) :
    ∃ notices, store.loadBaseline.run workspace =
      (.ok (baseline.filter fun each => each.Legible), { workspace with notices := notices }) := by
  have hread := readBaseline_of_shelf hshelf hname hbaseline hregular
  rw [loadBaseline_run, hread]
  cases baseline with
  | none => exact ⟨_, rfl⟩
  | some each =>
    rw [Option.elim_some, Option.filter_some]
    by_cases hlegible : each.Legible
    · rw [if_pos hlegible, if_pos (decide_eq_true hlegible)]
      exact ⟨_, rfl⟩
    · rw [if_neg hlegible, if_neg (by simpa using hlegible)]
      exact ⟨_, rfl⟩

theorem Holds.run_loadBaseline (h : store.Holds workspace.tree entries baseline) :
    ∃ notices, store.loadBaseline.run workspace =
      (.ok (baseline.filter fun each => each.Legible), { workspace with notices := notices }) := by
  obtain ⟨files, hshelf, -, hbaseline, -⟩ := h.shelf
  exact run_loadBaseline_of_shelf hshelf (h.admits _ (by decide)) hbaseline h.baseline

theorem readHistory_of_shelf (hshelf : tree.Shelf store.directory files)
    (hname : tree.Admits store.directory "history.jsonl")
    (hhistory : held files "history.jsonl" = historyContent entries) :
    store.readHistory tree = .ok (.ok (HistoryLine.ofText
      (Text.withLineFeeds (HistoryLine.written entries)))) := by
  have hfile := hshelf.hasFile hname
  unfold readHistory historyPath
  rw [hfile, hhistory, historyContent]
  by_cases hempty : entries = []
  · rw [if_pos hempty, hempty]
    rfl
  · rw [historyContent, if_neg hempty] at hhistory
    have hcontent := hshelf.content hname hhistory
    rw [if_neg hempty]
    unfold FileTree.readText
    simp only [Option.isSome_some, hcontent, Except.map, if_true,
      String.toList_ofList]

/-- The entries of the lines of a history are loaded, the last one first. -/
theorem run_loadHistory_of_lines {lines : List HistoryLine}
    (h : store.readHistory workspace.tree = .ok (.ok lines)) :
    ∃ notices, store.loadHistory.run workspace =
      (.ok (lines.filterMap HistoryLine.entry?).reverse, { workspace with notices := notices }) := by
  rw [loadHistory_run, h]
  exact ⟨_, rfl⟩

/-- The history that is loaded consists of the entries in its file that can be read back, the newest
first. -/
theorem run_loadHistory_of_shelf (hshelf : workspace.tree.Shelf store.directory files)
    (hname : workspace.tree.Admits store.directory "history.jsonl")
    (hhistory : held files "history.jsonl" = historyContent entries)
    (hformed : ∀ entry ∈ entries, entry.Formed) (hline : ∀ entry ∈ entries, entry.OneLine) :
    ∃ notices, store.loadHistory.run workspace =
      (.ok (entries.filter fun entry => entry.Legible).reverse,
        { workspace with notices := notices }) := by
  rw [← HistoryLine.filterMap_ofText_written hformed hline]
  exact run_loadHistory_of_lines (readHistory_of_shelf hshelf hname hhistory)

theorem Holds.run_loadHistory (h : store.Holds workspace.tree entries baseline) :
    ∃ notices, store.loadHistory.run workspace =
      (.ok (entries.filter fun entry => entry.Legible).reverse,
        { workspace with notices := notices }) := by
  obtain ⟨files, hshelf, -, -, hhistory⟩ := h.shelf
  exact run_loadHistory_of_shelf hshelf (h.admits _ (by decide)) hhistory
    (fun entry hentry => (h.entries entry hentry).formed)
    fun entry hentry => (h.entries entry hentry).oneLine

/-! ### Empty directories -/

/-- A tree with an empty directory into which everything can be written. -/
structure Ready (store : Store) (tree : FileTree) : Prop where
  here : tree.here.isAbsolute
  empty : tree.node store.directory = .ok (.directory [])
  admits : ∀ name ∈ fileNames, tree.Admits store.directory name

theorem Ready.holds {tree : FileTree} (h : store.Ready tree) : store.Holds tree [] none := by
  have hnothing : ∀ name node, ([] : List (String × Node)).lookup name = some node → node.isFile :=
    fun name node hnode => by cases hnode
  refine ⟨h.admits, ⟨[], ⟨h.here, h.empty, hnothing⟩, List.nodup_nil, rfl, rfl⟩, ?_, ?_, ?_⟩
  · intro each heach
    cases heach
  · intro each heach
    cases heach
  · exact fun entry hentry => absurd hentry List.not_mem_nil

/-! ### Writing -/

/-- Writing one of the files changes nothing in the other ones. -/
theorem Holds.of_shelf (h : store.Holds workspace.tree entries baseline) {after : FileTree}
    (hhere : after.here = workspace.tree.here) {files : List (String × Node)}
    (hshelf : after.Shelf store.directory files) (hnodup : (files.map Prod.fst).Nodup)
    {written : List HistoryEntry} {saved : Option Baseline}
    (hbaseline : held files "baseline.json" = saved.map fun baseline => .text baseline.document)
    (hhistory : held files "history.jsonl" = historyContent written)
    (hsaved : ∀ each, saved = some each → each.Regular)
    (hunbroken : ∀ each, saved = some each → ∀ id ∈ each.findingIds, Text.Unbroken id.toList)
    (hwritten : ∀ entry ∈ written, entry.Regular) : store.Holds after written saved :=
  ⟨fun name hname => (h.admits name hname).of_here hhere,
    ⟨files, hshelf, hnodup, hbaseline, hhistory⟩, hunbroken, hsaved, hwritten⟩

theorem Holds.run_saveBaseline (h : store.Holds workspace.tree entries baseline)
    {metrics : Metrics} (hmetrics : metrics.Regular) {findings : List Finding}
    (hids : ∀ finding ∈ findings, Text.Unbroken finding.id.toList) :
    ∃ after : Workspace, (store.saveBaseline metrics findings).run workspace =
        (.ok (.ofFindings workspace.clock.stamp metrics findings), after) ∧
      store.Holds after.tree entries
        (some (.ofFindings workspace.clock.stamp metrics findings)) := by
  obtain ⟨files, hshelf, hnodup, -, hhistory⟩ := h.shelf
  have hregular := Baseline.regular_ofFindings workspace.clock.stamp hmetrics findings
  have hunbroken := Baseline.unbroken_ofFindings workspace.clock.stamp metrics hids
  generalize hsaved : Baseline.ofFindings workspace.clock.stamp metrics findings = saved at *
  have hstamped : ({ workspace with clock := workspace.clock.afterStamp } :
      Workspace).tree.Shelf store.directory files := hshelf
  obtain ⟨after, hwrite, hhere, hafter⟩ := Workspace.run_writeText hstamped
    (h.admits "baseline.json" (by decide)) saved.document
  rw [saveBaseline_run, hsaved, StateT.run_bind, baselinePath, hwrite]
  refine ⟨_, rfl, h.of_shelf hhere hafter (Node.nodup_setEntry hnodup _ _) ?_ ?_ ?_ ?_ h.entries⟩
  · rw [FileTree.held_setEntry, if_pos rfl]
    rfl
  · rw [FileTree.held_setEntry, if_neg (by decide), hhistory]
  · intro each heq
    exact Option.some.inj heq ▸ hregular
  · intro each heq
    exact Option.some.inj heq ▸ hunbroken

theorem Holds.run_record (h : store.Holds workspace.tree entries baseline) {metrics : Metrics}
    {findings : List Finding} {old : Option Baseline} {entry : HistoryEntry}
    (hentry : entryOf workspace.clock.stamp metrics findings old = .ok entry)
    (hregular : entry.Regular) :
    ∃ after : Workspace, (store.record metrics findings old).run workspace = (.ok entry, after) ∧
      after.clock = workspace.clock.afterStamp ∧
      store.Holds after.tree (entries ++ [entry]) baseline := by
  obtain ⟨files, hshelf, hnodup, hbaseline, hhistory⟩ := h.shelf
  have hstamped : ({ workspace with clock := workspace.clock.afterStamp } :
      Workspace).tree.Shelf store.directory files := hshelf
  obtain ⟨after, happend, hhere, hafter⟩ := Workspace.run_appendText hstamped
    (h.admits "history.jsonl" (by decide)) entry.line
  rw [record_run_of_entryOf hentry, StateT.run_bind, historyPath, happend]
  refine ⟨_, rfl, rfl, h.of_shelf hhere hafter (Node.nodup_setEntry hnodup _ _) ?_ ?_ h.baseline
    h.unbroken ?_⟩
  · rw [FileTree.held_setEntry, if_neg (by decide), hbaseline]
  · rw [FileTree.held_setEntry, if_pos rfl, hhistory, append_historyContent]
  · rw [List.forall_mem_append]
    exact ⟨h.entries, by simpa using hregular⟩

/-- A run whose changes cannot be computed is not recorded. -/
theorem run_record_of_error {metrics : Metrics} {findings : List Finding} {old : Option Baseline}
    {error : ChangeError}
    (h : entryOf workspace.clock.stamp metrics findings old = .error error) :
    (store.record metrics findings old).run workspace =
      (.error (.change error), { workspace with clock := workspace.clock.afterStamp }) := by
  rw [record_run, h]
  rfl

/-! ### Clearing -/

theorem clear_run (path : Path) (workspace : Workspace) : (clear path).run workspace =
    StateT.run (m := Id) (match workspace.tree.has path with
      | .error error => pure (.error error)
      | .ok false => pure (.ok false)
      | .ok true => do
        return (← Workspace.change fun workspace => workspace.tree.deleteFile path).map fun _ => true)
      workspace := by
  rw [clear]
  rfl

/-- Clearing a file tells whether it was there, and takes it away. -/
theorem run_clear_of_shelf (hshelf : workspace.tree.Shelf store.directory files)
    (hnodup : (files.map Prod.fst).Nodup) {file : String}
    (hfile : workspace.tree.Admits store.directory file) :
    ∃ after : FileTree, (clear (store.directory.child file)).run workspace =
        (.ok (held files file).isSome, { workspace with tree := after }) ∧
      after.here = workspace.tree.here ∧
      after.Shelf store.directory (Node.setEntry file none files) := by
  rw [clear_run, hshelf.has hfile]
  cases hheld : held files file with
  | none => exact ⟨workspace.tree, rfl, rfl, by rw [hshelf.setEntry_none hheld]; exact hshelf⟩
  | some content =>
    obtain ⟨after, hdelete, hhere, hafter⟩ := hshelf.deleteFile hfile hnodup (by rw [hheld]; rfl)
    refine ⟨after, ?_, hhere, hafter⟩
    rw [Option.isSome_some]
    dsimp only
    rw [StateT.run_bind, Workspace.run_change_eq, hdelete]
    rfl

/-- Clearing the baseline leaves the history. -/
theorem Holds.run_clearBaseline (h : store.Holds workspace.tree entries baseline) :
    ∃ after : FileTree, store.clearBaseline.run workspace =
        (.ok baseline.isSome, { workspace with tree := after }) ∧ store.Holds after entries none := by
  obtain ⟨files, hshelf, hnodup, hbaseline, hhistory⟩ := h.shelf
  obtain ⟨after, hrun, hhere, hafter⟩ :=
    run_clear_of_shelf hshelf hnodup (h.admits "baseline.json" (by decide))
  rw [hbaseline, Option.isSome_map] at hrun
  have hclear : store.clearBaseline = clear (store.directory.child "baseline.json") := rfl
  rw [← hclear] at hrun
  have hkept : held (Node.setEntry "baseline.json" none files) "history.jsonl" =
      historyContent entries := by
    rw [FileTree.held_setEntry_of_ne _ _ (by decide), hhistory]
  have hnone : ∀ {holds : Baseline → Prop} (each : Baseline), none = some each → holds each :=
    fun _ heach => absurd heach.symm (Option.some_ne_none _)
  exact ⟨after, hrun, h.of_shelf hhere hafter (Node.nodup_setEntry hnodup _ _)
    (FileTree.held_setEntry_none hnodup _) hkept hnone hnone h.entries⟩

/-! ### Reports -/

/-- A run's report is one of the files that a store admits. -/
theorem pathIn_reportSuffix (directory : Path) (mode : Mode) :
    ∃ name ∈ fileNames, name ≠ "baseline.json" ∧ name ≠ "history.jsonl" ∧
      Report.pathIn directory (Audit.reportSuffix mode) = directory.child name := by
  cases mode with
  | full => exact ⟨"analysis-report.md", by decide, by decide, by decide, rfl⟩
  | incremental => exact ⟨"analysis-report-incremental.md", by decide, by decide, by decide, rfl⟩
  | filtered => exact ⟨"analysis-report-filtered.md", by decide, by decide, by decide, rfl⟩

/-- A tree in which the baseline and the history of a store stand as before. -/
def Keeps (store : Store) (before after : FileTree) : Prop :=
  after.node store.baselinePath = before.node store.baselinePath ∧
    after.node store.historyPath = before.node store.historyPath

/-- Saving a report leaves what the store holds. -/
theorem Holds.run_save (h : store.Holds workspace.tree entries baseline) (mode : Mode)
    (text : String) :
    ∃ path after, (Report.save store.directory (Audit.reportSuffix mode) text).run workspace =
        (.ok path, { workspace with tree := after }) ∧
      store.Holds after entries baseline ∧ store.Keeps workspace.tree after := by
  obtain ⟨files, hshelf, hnodup, hbaseline, hhistory⟩ := h.shelf
  obtain ⟨name, hname, hnotBaseline, hnotHistory, hpath⟩ :=
    pathIn_reportSuffix store.directory mode
  obtain ⟨after, hchange, hhere, hafter⟩ :=
    Workspace.run_change hshelf (h.admits name hname) fun _ => .text text
  refine ⟨store.directory.child name, after, ?_,
    h.of_shelf hhere hafter (Node.nodup_setEntry hnodup _ _) ?_ ?_ h.baseline h.unbroken h.entries,
    ?_, ?_⟩
  · unfold Report.save
    rw [StateT.run_bind, Workspace.run_makeDirectory hshelf, hpath]
    change StateT.run (m := Id) ((Workspace.change fun workspace =>
      workspace.tree.update (store.directory.child name) workspace.modified fun _ => .text text) >>=
        _) workspace = _
    rw [StateT.run_bind, hchange]
    rfl
  · rw [FileTree.held_setEntry, if_neg hnotBaseline.symm, hbaseline]
  · rw [FileTree.held_setEntry, if_neg hnotHistory.symm, hhistory]
  · exact hshelf.node_setEntry hafter hhere (h.admits _ (by decide)) hnotBaseline.symm
  · exact hshelf.node_setEntry hafter hhere (h.admits _ (by decide)) hnotHistory.symm

end Store
end KotlinAudit
