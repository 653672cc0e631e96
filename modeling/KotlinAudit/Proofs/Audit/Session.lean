import KotlinAudit.Proofs.Audit.Agreement
import KotlinAudit.Proofs.Audit.Persistence

/-! Sessions: runs of any kind on a tree that is edited between them outside the directory of their
store. After each of them the store holds an entry for every full run so far, compared with the full
run before it, and the baseline of the last one. In courses of full runs the baseline can be deleted, and
a run has been compared exactly if the event before it is a run whose baseline can be read back. -/
namespace KotlinAudit

/-- A full run that has completed. -/
structure FullRun where
  audit : Audit
  /-- Where the run began. -/
  workspace : Workspace
  result : Result
  after : Workspace
  completed : (audit.perform .full).run.run workspace = (.ok result, after)

namespace FullRun

def ids (run : FullRun) : List String := run.result.findings.map (·.id)

/-- The baseline that the run leaves. -/
def baseline (run : FullRun) : Baseline :=
  .ofFindings run.workspace.clock.afterStamp.stamp run.result.metrics run.result.findings

/-- A run that sees what an earlier one has seen. -/
structure Repeats (run old : FullRun) : Prop where
  audit : run.audit = old.audit
  plain : old.audit.Plain
  proper : old.workspace.tree.Proper
  same : old.audit.SameSources old.workspace.tree run.workspace.tree

/-- An entry of the history for a run, compared with the full run before it unless that has left a
baseline which cannot be read back. -/
structure Recorded (run : FullRun) (before : Option FullRun) (entry : HistoryEntry) : Prop where
  timestamp : entry.timestamp = run.workspace.clock.stamp
  metrics : entry.metrics = run.result.metrics
  count : entry.findingCount = run.result.findings.length
  ids : entry.findingIds = run.ids
  first : before = none → entry.comparison = none
  next : ∀ old, before = some old → old.baseline.Legible → ∃ comparison,
    entry.comparison = some comparison ∧
      old.baseline.compare run.result.metrics (some run.ids) = .ok comparison
  lost : ∀ old, before = some old → ¬old.baseline.Legible → entry.comparison = none
  unchanged : ∀ old, before = some old → old.baseline.Legible → run.Repeats old →
    entry.comparison = some .empty

end FullRun

/-- An audit that works with bundled analyzers alone and writes to a store. -/
structure Audit.Serves (audit : Audit) (store : Store) : Prop where
  store : audit.store = store
  registry : audit.registry = .bundled
  linter : audit.linter = none

/-- Runs that have completed one after the other from a start, with the full ones among them, and
where they have led to. Between two runs anything may change but what stands in the directory of the
store. -/
inductive Session (store : Store) (start : Workspace) : List FullRun → Workspace → Prop
  | start : Session store start [] start
  | edit {runs : List FullRun} {workspace after : Workspace}
    (before : Session store start runs workspace) (here : after.tree.here = workspace.tree.here)
    (node : after.tree.node store.directory = workspace.tree.node store.directory) :
    Session store start runs after
  | full {runs : List FullRun} {run : FullRun} (before : Session store start runs run.workspace)
    (serves : run.audit.Serves store) : Session store start (runs ++ [run]) run.after
  | other {runs : List FullRun} {workspace after : Workspace} {audit : Audit} {request : Request}
    {result : Result} (before : Session store start runs workspace) (serves : audit.Serves store)
    (mode : request.mode ≠ .full)
    (run : (audit.perform request).run.run workspace = (.ok result, after)) :
    Session store start runs after

namespace Store

variable {store : Store} {before after : FileTree} {entries : List HistoryEntry}
  {baseline : Option Baseline}

/-- An edit outside the directory of the store leaves what the store holds. -/
theorem Holds.of_node (h : store.Holds before entries baseline) (hhere : after.here = before.here)
    (hnode : after.node store.directory = before.node store.directory) :
    store.Holds after entries baseline := by
  obtain ⟨files, hshelf, hheld⟩ := h.shelf
  exact ⟨fun name hname => (h.admits name hname).of_here hhere,
    ⟨files, ⟨hhere ▸ hshelf.here, hnode.trans hshelf.node, hshelf.files⟩, hheld⟩, h.unbroken,
    h.baseline, h.entries⟩

end Store

namespace Audit

variable {audit : Audit} {store : Store} {request : Request} {workspace after : Workspace}
  {result : Result} {entries : List HistoryEntry} {kept : Option Baseline}

/-- A run of another kind leaves the baseline and the history alone. -/
theorem run_other_store (hserves : audit.Serves store)
    (h : store.Holds workspace.tree entries kept) (hmode : request.mode ≠ .full)
    (hrun : (audit.perform request).run.run workspace = (.ok result, after)) :
    store.Holds after.tree entries kept ∧ store.Keeps workspace.tree after.tree := by
  obtain ⟨rfl, -, hlinter⟩ := hserves
  rcases run_perform_eq_ok hrun with ⟨files, -, hexecutes⟩ | ⟨-, -, -, notices, rfl⟩
  · obtain ⟨aggregate, path, notices, phases, -, hpersist, rfl⟩ := eq_ok_of_executes hlinter hexecutes
    obtain ⟨hholds, hkeeps⟩ := run_persist_partial hpersist h hmode
    exact ⟨hholds, hkeeps⟩
  · exact ⟨h, rfl, rfl⟩

end Audit

namespace FullRun

open Audit

variable {store : Store} {run old : FullRun} {entries : List HistoryEntry} {kept : Option Baseline}

/-- A full run adds its entry to the history and leaves its baseline. -/
theorem store_after (run : FullRun) (hserves : run.audit.Serves store)
    (h : store.Holds run.workspace.tree entries kept) :
    ∃ entry, Store.entryOf run.workspace.clock.stamp run.result.metrics run.result.findings
        (kept.filter fun each => each.Legible) = .ok entry ∧
      store.Holds run.after.tree (entries ++ [entry]) (some run.baseline) := by
  obtain ⟨audit, workspace, result, after, hrun⟩ := run
  obtain ⟨rfl, hregistry, hlinter⟩ := hserves
  rcases run_perform_eq_ok hrun with ⟨files, -, hexecutes⟩ | ⟨hmode, -⟩
  · obtain ⟨hsub, -⟩ := analyzersFor_spec hregistry .full
    obtain ⟨hfindings, hmetrics⟩ := findings_of_executes hlinter hexecutes
    obtain ⟨aggregate, path, notices, phases, -, hpersist, rfl⟩ := eq_ok_of_executes hlinter hexecutes
    have hids : ∀ finding ∈ aggregate.findings, Text.Unbroken finding.id.toList := by
      intro finding hfinding
      rw [show aggregate.findings = _ from hfindings] at hfinding
      exact unbroken_of_mem_resolved hsub hfinding
    obtain ⟨entry, hentry, hholds⟩ :=
      run_persist_full hpersist h rfl (Metrics.regular_of_ofFindings hmetrics) hids
    exact ⟨entry, hentry, hholds⟩
  · cases hmode

/-- A run that sees what an earlier one has seen has the same findings and metrics. -/
theorem Repeats.result_eq (h : run.Repeats old) :
    run.result.findings = old.result.findings ∧ run.result.metrics = old.result.metrics := by
  obtain ⟨audit, workspace, result, after, hrun⟩ := run
  obtain ⟨rfl, hplain, hproper, hsame⟩ := h
  obtain ⟨files, hfiles, hfindings, hmetrics, -⟩ := findings_full hplain old.completed
  obtain ⟨files', hfiles', hfindings', hmetrics', -⟩ := findings_full hplain hrun
  obtain ⟨scanner, -, hselection, hsees⟩ := sees_filesFor hplain hproper
    (fun path hpath => absurd hpath List.not_mem_nil) hfiles
  obtain rfl := Except.ok.inj ((filesFor_congr hsame hfiles).symm.trans hfiles')
  have hresult : result.findings = old.result.findings := by
    rw [hfindings, hfindings', yield_congr hsame (List.Subset.refl _)
      fun file hfile => concerns_of_sees hselection (hsees file hfile)]
  rw [hresult, hmetrics] at hmetrics'
  exact ⟨hresult, (Except.ok.inj hmetrics').symm⟩

/-- A full run repeats an earlier one if nothing but runs of the audit has been between them. -/
theorem repeats_of_leads (haudit : run.audit = old.audit) (hplain : old.audit.Plain)
    (hseparate : old.audit.Separate) (hhoused : old.audit.Housed old.workspace.tree)
    (hleads : old.audit.Leads old.workspace run.workspace) : run.Repeats old :=
  ⟨haudit, hplain, hhoused.proper, (hleads.sameSources hseparate hhoused).2⟩

theorem recorded_of_entryOf {before : Option FullRun} {entry : HistoryEntry}
    (h : Store.entryOf run.workspace.clock.stamp run.result.metrics run.result.findings
      ((before.map baseline).filter fun each => each.Legible) = .ok entry) :
    run.Recorded before entry := by
  obtain ⟨comparison, hcomparison, h⟩ := Outcome.bind_eq_ok.1 h
  cases h
  have hnext : ∀ old, before = some old → old.baseline.Legible → ∃ made,
      comparison = some made ∧
        old.baseline.compare run.result.metrics (some run.ids) = .ok made := by
    rintro old rfl hlegible
    rw [Option.map_some, Option.filter_some, if_pos (decide_eq_true hlegible),
      Option.mapM_some] at hcomparison
    obtain ⟨made, hmade, rfl⟩ := Outcome.map_eq_ok.1 hcomparison
    exact ⟨made, rfl, hmade⟩
  refine ⟨rfl, rfl, by simp, rfl, ?_, hnext, ?_, ?_⟩
  · rintro rfl
    cases hcomparison
    rfl
  · rintro old rfl hlost
    rw [Option.map_some, Option.filter_some, if_neg (by simpa using hlost)] at hcomparison
    cases hcomparison
    rfl
  · intro old hold hlegible hrepeats
    obtain ⟨made, rfl, hmade⟩ := hnext old hold hlegible
    obtain ⟨hfindings, hmetrics⟩ := hrepeats.result_eq
    rw [ids, hfindings, hmetrics, baseline, Baseline.compare_ofFindings] at hmade
    cases hmade
    rfl

/-- The run before the one with some number. -/
def previous? (runs : List FullRun) : Nat → Option FullRun
  | 0 => none
  | n + 1 => runs[n]?

theorem previous?_append {runs more : List FullRun} {n : Nat} (h : n ≤ runs.length) :
    previous? (runs ++ more) n = previous? runs n := by
  cases n with
  | zero => rfl
  | succ n => exact List.getElem?_append_left h

theorem previous?_length (runs : List FullRun) : previous? runs runs.length = runs.getLast? := by
  rw [List.getLast?_eq_getElem?]
  cases runs with
  | nil => rfl
  | cons run rest => rfl

end FullRun

/-! ### Two runs of a sample -/

namespace Audit

/-- A project of which only the directory of the store is left, with some files in it. -/
def leftTree (files : List (String × Node)) (here : Path) : FileTree where
  root := .directory [("out", .directory files), ("src", .directory [])]
  here := here

variable {files : List (String × Node)} {here : Path}

theorem left_node {names : List String} {node : Node}
    (hpath : FileTree.refusal? ⟨1, names⟩ = none) (hnames : FileTree.PlainNames names)
    (hnode : ∀ target, node ≠ .link target) (h : (leftTree files here).root.at? names = some node) :
    (leftTree files here).node ⟨1, names⟩ = .ok node :=
  FileTree.node_of_at? hpath hnames hnode h

theorem left_out (files : List (String × Node)) (here : Path) :
    (leftTree files here).node ⟨1, ["out"]⟩ = .ok (.directory files) :=
  left_node (by decide) (by decide) nofun rfl

theorem left_source (files : List (String × Node)) (here : Path) :
    (leftTree files here).node ⟨1, ["src"]⟩ = .ok (.directory []) :=
  left_node (by decide) (by decide) nofun rfl

theorem left_resolve (files : List (String × Node)) (here : Path) :
    (leftTree files here).resolve ⟨1, ["src"]⟩ = .ok ⟨1, ["src"]⟩ :=
  FileTree.resolve_of_at? (by decide) (by decide) (fun _ h => by cases h) rfl

theorem left_files (files : List (String × Node)) (here : Path) :
    sample.filesFor (leftTree files here) none = .ok [] := by
  have hscanner : sample.scannerIn (leftTree files here) = .ok sampleScanner := by
    unfold scannerIn Discovery.Scanner.ofRoot
    rw [show sample.config.root = ⟨1, ["src"]⟩ from rfl, left_resolve]
    rfl
  have hnode : (leftTree files here).node? ⟨1, ["src"]⟩ = .ok (some (.directory [])) := by
    rw [FileTree.node?, left_source]
  have hsighted : sighted sampleScanner (leftTree files here) none = .ok [] := by
    unfold sighted Discovery.Scanner.scan
    rw [show sampleScanner.root = ⟨1, ["src"]⟩ from rfl, Discovery.Scanner.scanAt_of_node? hnode,
      Discovery.Scanner.walk, Discovery.Scanner.walkEntries, Discovery.Scanner.together,
      List.mergeSort_nil]
    rfl
  exact filesFor_eq_ok.2 ⟨_, _, hscanner, hsighted, rfl⟩

/-- The findings in the file of the sample. -/
def sampleFindings : List Finding :=
  Aggregate.resolved
    (bundledAnalyzers.flatMap (found sampleTree.hasFile sampleFile "class A\n".toList))

/-- Whether some findings can be recorded, and then that there are none, and all of that be read back. -/
def canBeCleared (findings : List Finding) : Bool :=
  match Metrics.ofFindings findings, Metrics.ofFindings [] with
  | .ok metrics, .ok nothing =>
    match (Baseline.ofFindings 2 metrics findings).compare nothing (some []) with
    | .ok comparison =>
      ((findings.length : Int) :: (metrics.integers ++ nothing.integers)).all
          (fun value => decide (Json.Brief value)) &&
        comparison.changes.all (·.2.isFinite)
    | .error _ => false
  | _, _ => false

theorem exists_of_canBeCleared {findings : List Finding} (h : canBeCleared findings = true) :
    ∃ metrics nothing comparison, Metrics.ofFindings findings = .ok metrics ∧
      Metrics.ofFindings [] = .ok nothing ∧
      (Baseline.ofFindings 2 metrics findings).compare nothing (some []) = .ok comparison ∧
      (∀ value ∈ (findings.length : Int) :: (metrics.integers ++ nothing.integers),
        Json.Brief value) ∧
      ∀ change ∈ comparison.changes, change.2.isFinite = true := by
  unfold canBeCleared at h
  split at h
  · next metrics nothing hmetrics hnothing =>
    split at h
    · next comparison hcomparison =>
      obtain ⟨hbrief, hfinite⟩ := Bool.and_eq_true_iff.1 h
      refine ⟨metrics, nothing, comparison, hmetrics, hnothing, hcomparison, ?_,
        List.all_eq_true.1 hfinite⟩
      exact fun value hvalue => of_decide_eq_true (List.all_eq_true.1 hbrief value hvalue)
    · cases h
  · cases h

theorem sample_canBeCleared : canBeCleared sampleFindings = true := by decide +kernel

end Audit

namespace FullRun

open Audit

variable {run : FullRun} {entries : List HistoryEntry} {kept : Option Baseline}

theorem Recorded.legible {before : Option FullRun} {entry : HistoryEntry}
    (h : run.Recorded before entry) (hstamp : Json.Brief run.workspace.clock.stamp)
    (hfigures : ∀ value ∈ (run.result.findings.length : Int) :: run.result.metrics.integers,
      Json.Brief value)
    (hchanges : ∀ comparison, entry.comparison = some comparison →
      ∀ change ∈ comparison.changes, change.2.isFinite = true) : entry.Legible := by
  refine ⟨?_, ?_⟩
  · rw [h.timestamp, h.count, h.metrics]
    exact List.forall_mem_cons.2 ⟨hstamp, hfigures⟩
  · unfold HistoryEntry.changes
    cases hcomparison : entry.comparison with
    | none => exact nofun
    | some comparison => exact hchanges comparison hcomparison

theorem sample_serves : sample.Serves sample.store := ⟨rfl, rfl, rfl⟩

/-- A run of the sample after its source has been removed from a workspace. -/
structure Clears (run : FullRun) (workspace : Workspace) : Prop where
  audit : run.audit = sample
  here : run.workspace.tree.here = workspace.tree.here
  node : run.workspace.tree.node sample.store.directory = workspace.tree.node sample.store.directory
  clock : run.workspace.clock = ⟨10, 1⟩
  findings : run.result.findings = []
  metrics : Metrics.ofFindings [] = .ok run.result.metrics

theorem exists_clears {workspace : Workspace} {nothing : Metrics}
    (h : sample.store.Holds workspace.tree entries kept)
    (hnothing : Metrics.ofFindings [] = .ok nothing)
    (hkept : ∀ each, kept = some each → each.Comparable nothing) :
    ∃ run : FullRun, run.Clears workspace := by
  obtain ⟨files, hshelf, -⟩ := h.shelf
  have hout : (leftTree files workspace.tree.here).node ⟨1, ["out"]⟩ =
      workspace.tree.node sample.store.directory := (left_out _ _).trans hshelf.node.symm
  have hheld : sample.store.Holds
      (Workspace.ofTree (leftTree files workspace.tree.here) ⟨10, 1⟩).tree entries kept :=
    h.of_node rfl hout
  have hmoment : Moment.ofMillis 10 = .ok ⟨1970, 1, 1, 0, 0, 0⟩ := by decide +kernel
  obtain ⟨result, after, hrun⟩ := exists_run_full rfl rfl hheld (left_files files _)
    (Aggregate.ofFindings_eq_ok.2 ⟨nothing, hnothing, rfl⟩) ⟨_, hmoment⟩ hkept
  obtain ⟨found, hfound, hfindings, hmetrics, -⟩ := findings_full sample_plain hrun
  obtain rfl := Except.ok.inj ((left_files files _).symm.trans hfound)
  have hnone : result.findings = [] := hfindings
  rw [hnone] at hmetrics
  exact ⟨⟨sample, _, result, after, hrun⟩, rfl, rfl, hout, rfl, hnone, hmetrics⟩

/-- The sample has a run, and after its source has been removed another one; what they have stored can be
read back. -/
structure SampleRuns (run again : FullRun) : Prop where
  audit : run.audit = sample
  workspace : run.workspace = sampleStart
  clears : again.Clears run.after
  brief : ∀ value ∈ (run.result.findings.length : Int) ::
    (run.result.metrics.integers ++ again.result.metrics.integers), Json.Brief value
  finite : ∀ comparison, run.baseline.compare again.result.metrics (some []) = .ok comparison →
    ∀ change ∈ comparison.changes, change.2.isFinite = true

theorem exists_sampleRuns : ∃ run again, SampleRuns run again := by
  obtain ⟨result, after, hrun⟩ := sample_completes rfl (analyzersFor_full sample_plain)
  obtain ⟨found, hfound, hfindings, hmetrics, -⟩ := findings_full sample_plain hrun
  obtain rfl := Except.ok.inj (sample_files.symm.trans hfound)
  rw [yield, List.flatMap_singleton, foundIn,
    show sample.read sampleStart.tree sampleFile = _ from sample_read] at hfindings
  have hsame : result.findings = sampleFindings := hfindings
  obtain ⟨metrics, nothing, comparison, hmetrics', hnothing, hcomparison, hbrief, hfinite⟩ :=
    exists_of_canBeCleared (hsame ▸ sample_canBeCleared)
  obtain rfl := Except.ok.inj (hmetrics.symm.trans hmetrics')
  let run : FullRun := ⟨sample, sampleStart, result, after, hrun⟩
  obtain ⟨entry, -, hholds⟩ := run.store_after sample_serves sample_ready.holds
  have hmoment : Moment.ofMillis 2 = .ok ⟨1970, 1, 1, 0, 0, 0⟩ := by decide +kernel
  obtain ⟨again, hclears⟩ := exists_clears hholds hnothing fun each heach =>
    Option.some.inj heach ▸ ⟨⟨_, hmoment⟩,
      Metrics.exists_changes_iff.1 (Baseline.exists_compare_iff.1 ⟨comparison, hcomparison⟩)⟩
  obtain rfl := Except.ok.inj (hnothing.symm.trans hclears.metrics)
  refine ⟨run, again, rfl, rfl, hclears, hbrief, fun other hother => ?_⟩
  obtain rfl := Except.ok.inj (hcomparison.symm.trans hother)
  exact hfinite

namespace SampleRuns

variable {again : FullRun} {entry : HistoryEntry}

theorem legible (h : SampleRuns run again) : run.baseline.Legible ∧ again.baseline.Legible := by
  obtain ⟨-, hbrief⟩ := List.forall_mem_cons.1 h.brief
  obtain ⟨hfirst, hsecond⟩ := List.forall_mem_append.1 hbrief
  have hstamp : Json.Brief 2 := by decide +kernel
  have hstamp' : Json.Brief 12 := by decide +kernel
  unfold baseline
  rw [h.workspace, h.clears.clock]
  exact ⟨List.forall_mem_cons.2 ⟨hstamp, hfirst⟩, List.forall_mem_cons.2 ⟨hstamp', hsecond⟩⟩

theorem legible_first (h : SampleRuns run again) (hentry : run.Recorded none entry) :
    entry.Legible := by
  obtain ⟨hcount, hbrief⟩ := List.forall_mem_cons.1 h.brief
  refine hentry.legible (h.workspace ▸ by decide +kernel)
    (List.forall_mem_cons.2 ⟨hcount, (List.forall_mem_append.1 hbrief).1⟩) ?_
  rw [hentry.first rfl]
  exact nofun

theorem legible_second (h : SampleRuns run again) (hentry : again.Recorded (some run) entry) :
    entry.comparison.isSome = true ∧ entry.Legible := by
  obtain ⟨-, hbrief⟩ := List.forall_mem_cons.1 h.brief
  obtain ⟨comparison, hcomparison, hmade⟩ := hentry.next run rfl h.legible.1
  rw [ids, h.clears.findings, List.map_nil] at hmade
  refine ⟨by rw [hcomparison]; rfl, hentry.legible (h.clears.clock ▸ by decide +kernel) ?_ ?_⟩
  · rw [h.clears.findings]
    exact List.forall_mem_cons.2 ⟨by decide +kernel, (List.forall_mem_append.1 hbrief).2⟩
  · intro other hother
    obtain rfl := Option.some.inj (hcomparison.symm.trans hother)
    exact h.finite _ hmade

end SampleRuns
end FullRun

namespace Session

open Audit (sample sampleStart)
open FullRun (previous?)

variable {store : Store} {start workspace : Workspace} {runs : List FullRun}

/-- What a store holds after each run of a session. -/
theorem exists_entries (hstart : store.Ready start.tree) (h : Session store start runs workspace) :
    ∃ entries, store.Holds workspace.tree entries (runs.getLast?.map FullRun.baseline) ∧
      entries.length = runs.length ∧ ∀ (n : Nat) (run : FullRun), runs[n]? = some run →
        ∃ entry, entries[n]? = some entry ∧ run.Recorded (previous? runs n) entry := by
  induction h with
  | start => exact ⟨[], hstart.holds, rfl, fun n run hrun => by cases hrun⟩
  | edit _ hhere hnode ih =>
    obtain ⟨entries, hholds, hentries⟩ := ih
    exact ⟨entries, hholds.of_node hhere hnode, hentries⟩
  | other _ hserves hmode hrun ih =>
    obtain ⟨entries, hholds, hentries⟩ := ih
    exact ⟨entries, (Audit.run_other_store hserves hholds hmode hrun).1, hentries⟩
  | @full runs run _ hserves ih =>
    obtain ⟨entries, hholds, hlength, hentries⟩ := ih
    obtain ⟨entry, hentry, hafter⟩ := run.store_after hserves hholds
    have hlast : (runs ++ [run]).getLast? = some run := List.getLast?_concat
    refine ⟨entries ++ [entry], hlast.symm ▸ hafter, by simp [hlength], fun n other hother => ?_⟩
    rcases Nat.lt_trichotomy n runs.length with hlt | rfl | hgt
    · -- an earlier run keeps its entry
      rw [List.getElem?_append_left hlt] at hother
      obtain ⟨noted, hnoted, hrecorded⟩ := hentries n other hother
      rw [FullRun.previous?_append (Nat.le_of_lt hlt),
        List.getElem?_append_left (hlength.symm ▸ hlt)]
      exact ⟨noted, hnoted, hrecorded⟩
    · rw [List.getElem?_concat_length, Option.some.injEq] at hother
      subst hother
      rw [FullRun.previous?_append (Nat.le_refl _), FullRun.previous?_length, ← hlength]
      exact ⟨entry, List.getElem?_concat_length, FullRun.recorded_of_entryOf hentry⟩
    · have hnone : (runs ++ [run])[n]? = none := by
        rw [List.getElem?_eq_none_iff, List.length_append, List.length_singleton]
        omega
      rw [hnone] at hother
      cases hother

/-- After every run of a session that begins with an empty directory, the history has one entry for
each full run so far, of its metrics and findings and compared with the full run before it; it is
loaded with the newest entry first, but for the entries that cannot be read back. The baseline that
is loaded is that of the last full run, if it can be read back. Runs of another kind leave the
baseline and the history as they are. -/
theorem recorded (hstart : store.Ready start.tree) (h : Session store start runs workspace) :
    ∃ entries : List HistoryEntry, entries.length = runs.length ∧
      (∀ (n : Nat) (run : FullRun), runs[n]? = some run →
        ∃ entry, entries[n]? = some entry ∧ run.Recorded (previous? runs n) entry) ∧
      (store.loadHistory.run workspace).1 =
        .ok (entries.filter fun entry => entry.Legible).reverse ∧
      ((store.loadHistory.run workspace).1 = .ok entries.reverse ↔
        ∀ entry ∈ entries, entry.Legible) ∧
      (store.loadBaseline.run workspace).1 =
        .ok ((runs.getLast?.map FullRun.baseline).filter fun each => each.Legible) ∧
      ∀ (audit : Audit) (request : Request) (result : Result) (after : Workspace),
        audit.Serves store → request.mode ≠ .full →
        (audit.perform request).run.run workspace = (.ok result, after) →
          store.Keeps workspace.tree after.tree := by
  obtain ⟨entries, hholds, hlength, hentries⟩ := h.exists_entries hstart
  obtain ⟨_, hhistory⟩ := hholds.run_loadHistory
  obtain ⟨_, hbaseline⟩ := hholds.run_loadBaseline
  refine ⟨entries, hlength, hentries, by rw [hhistory], ?_, by rw [hbaseline], ?_⟩
  · rw [hhistory, Except.ok.injEq, List.reverse_inj, List.filter_eq_self]
    simp only [decide_eq_true_eq]
  · intro audit request result after hserves hmode hrun
    exact (Audit.run_other_store hserves hholds hmode hrun).2

/-- The source of the sample is removed after the first run, so that the second one comes to nothing: the
history has both runs, the newest one first, the second compared with the first. -/
theorem recorded_sample : ∃ run again : FullRun, run.workspace = sampleStart ∧
    Session sample.store sampleStart [run, again] again.after ∧ ∃ first second : HistoryEntry,
      run.Recorded none first ∧ again.Recorded (some run) second ∧ second.comparison.isSome ∧
      (sample.store.loadHistory.run again.after).1 = .ok [second, first] ∧
      (sample.store.loadBaseline.run again.after).1 = .ok (some again.baseline) := by
  obtain ⟨run, again, hruns⟩ := FullRun.exists_sampleRuns
  have hfirst : Session sample.store sampleStart ([] ++ [run]) run.after :=
    .full (hruns.workspace ▸ .start) (hruns.audit ▸ FullRun.sample_serves)
  have hsecond : Session sample.store sampleStart ([run] ++ [again]) again.after :=
    .full (hfirst.edit hruns.clears.here hruns.clears.node) (hruns.clears.audit ▸ FullRun.sample_serves)
  obtain ⟨entries, hlength, hentries, -, hall, hbaseline, -⟩ := recorded Audit.sample_ready hsecond
  obtain ⟨first, second, rfl⟩ := List.length_eq_two.1 hlength
  obtain ⟨_, hzero, hrecorded⟩ := hentries 0 run rfl
  obtain ⟨_, hone, hrecorded'⟩ := hentries 1 again rfl
  cases hzero
  cases hone
  obtain ⟨hcompared, hlegible⟩ := hruns.legible_second hrecorded'
  refine ⟨run, again, hruns.workspace, hsecond, first, second, hrecorded, hrecorded', hcompared,
    hall.2 ?_, ?_⟩
  · exact List.forall_mem_cons.2
      ⟨hruns.legible_first hrecorded, List.forall_mem_singleton.2 hlegible⟩
  · rw [hbaseline]
    exact congrArg Except.ok (Option.filter_some_pos (decide_eq_true hruns.legible.2))

end Session

/-! ### Courses of full runs and deletions -/

/-- What happens to a store. -/
inductive Event
  | run (run : FullRun)
  | deletion

/-- The run whose baseline stands after some events, none if it has been deleted. -/
def Event.standing? (events : List Event) : Option FullRun :=
  events.getLast?.bind fun
    | .run last => some last
    | .deletion => none

/-- Full runs that have completed and deletions of the baseline, one after the other from a start, and
where they have led to. In between anything may change but what stands in the directory of the store. -/
inductive Course (store : Store) (start : Workspace) : List Event → Workspace → Prop
  | start : Course store start [] start
  | edit {events : List Event} {workspace after : Workspace}
    (before : Course store start events workspace) (here : after.tree.here = workspace.tree.here)
    (node : after.tree.node store.directory = workspace.tree.node store.directory) :
    Course store start events after
  | run {events : List Event} {run : FullRun} (before : Course store start events run.workspace)
    (serves : run.audit.Serves store) : Course store start (events ++ [.run run]) run.after
  | deletion {events : List Event} {workspace : Workspace}
    (before : Course store start events workspace) :
    Course store start (events ++ [.deletion]) (store.clearBaseline.run workspace).2

/-- The entries of the runs of a course, the oldest first, each compared with the run whose baseline stood
before it. -/
inductive Chronicle : List Event → List HistoryEntry → Prop
  | start : Chronicle [] []
  | run {events : List Event} {entries : List HistoryEntry} {run : FullRun} {entry : HistoryEntry}
    (before : Chronicle events entries) (recorded : run.Recorded (Event.standing? events) entry) :
    Chronicle (events ++ [.run run]) (entries ++ [entry])
  | deletion {events : List Event} {entries : List HistoryEntry} (before : Chronicle events entries) :
    Chronicle (events ++ [.deletion]) entries

namespace Event

@[simp] theorem standing?_run (events : List Event) (run : FullRun) :
    standing? (events ++ [.run run]) = some run := by simp [standing?]

@[simp] theorem standing?_deletion (events : List Event) :
    standing? (events ++ [.deletion]) = none := by simp [standing?]

theorem mem_of_standing? {events : List Event} {run : FullRun} (h : standing? events = some run) :
    .run run ∈ events := by
  obtain ⟨event, hlast, hevent⟩ := Option.bind_eq_some_iff.1 h
  cases event with
  | run last =>
    cases hevent
    exact List.mem_of_getLast? hlast
  | deletion => cases hevent

end Event

namespace FullRun.Recorded

variable {run : FullRun} {before : Option FullRun} {entry : HistoryEntry}

/-- A comparison has been made with the baseline of the run before. -/
theorem exists_compare (h : run.Recorded before entry) {comparison : Comparison}
    (hentry : entry.comparison = some comparison) : ∃ old, before = some old ∧ old.baseline.Legible ∧
      old.baseline.compare run.result.metrics (some run.ids) = .ok comparison := by
  cases before with
  | none => cases (h.first rfl).symm.trans hentry
  | some old =>
    by_cases hlegible : old.baseline.Legible
    · obtain ⟨made, hmade, hcompare⟩ := h.next old rfl hlegible
      obtain rfl := Option.some.inj (hmade.symm.trans hentry)
      exact ⟨old, rfl, hlegible, hcompare⟩
    · cases (h.lost old rfl hlegible).symm.trans hentry

theorem isSome_comparison_iff (h : run.Recorded before entry) :
    entry.comparison.isSome = true ↔ ∃ old, before = some old ∧ old.baseline.Legible := by
  constructor
  · intro hsome
    obtain ⟨comparison, hentry⟩ := Option.isSome_iff_exists.1 hsome
    obtain ⟨old, hold, hlegible, -⟩ := h.exists_compare hentry
    exact ⟨old, hold, hlegible⟩
  · rintro ⟨old, hold, hlegible⟩
    obtain ⟨comparison, hentry, -⟩ := h.next old hold hlegible
    rw [hentry]
    rfl

end FullRun.Recorded

namespace Chronicle

variable {events front back : List Event} {entries : List HistoryEntry} {run : FullRun}
  {entry : HistoryEntry}

/-- Every entry is that of a run. -/
theorem exists_run (h : Chronicle events entries) (hentry : entry ∈ entries) :
    ∃ front run back, events = front ++ .run run :: back ∧
      run.Recorded (Event.standing? front) entry := by
  induction h with
  | start => cases hentry
  | @run events entries last newest _ hrecorded ih =>
    rcases List.mem_append.1 hentry with hold | hnew
    · obtain ⟨front, run, back, rfl, hrun⟩ := ih hold
      exact ⟨front, run, back ++ [.run last], by simp, hrun⟩
    · obtain rfl := List.mem_singleton.1 hnew
      exact ⟨events, last, [], rfl, hrecorded⟩
  | deletion _ ih =>
    obtain ⟨front, run, back, rfl, hrun⟩ := ih hentry
    exact ⟨front, run, back ++ [.deletion], by simp, hrun⟩

theorem eq_nil (h : Chronicle [] entries) : entries = [] := by
  generalize hevents : ([] : List Event) = events at h
  cases h with
  | start => rfl
  | run => simp at hevents
  | deletion => simp at hevents

/-- The last entry is that of the last run. -/
theorem of_run (h : Chronicle (events ++ [.run run]) entries) :
    ∃ others entry, entries = others ++ [entry] ∧ Chronicle events others ∧
      run.Recorded (Event.standing? events) entry := by
  generalize hevents : events ++ [.run run] = all at h
  cases h with
  | start => simp at hevents
  | run hbefore hrecorded =>
    obtain ⟨rfl, hsame⟩ := List.append_inj' hevents rfl
    cases hsame
    exact ⟨_, _, rfl, hbefore, hrecorded⟩
  | deletion =>
    obtain ⟨-, hsame⟩ := List.append_inj' hevents rfl
    cases hsame

theorem of_deletion (h : Chronicle (events ++ [.deletion]) entries) : Chronicle events entries := by
  generalize hevents : events ++ [.deletion] = all at h
  cases h with
  | start => simp at hevents
  | run =>
    obtain ⟨-, hsame⟩ := List.append_inj' hevents rfl
    cases hsame
  | deletion hbefore =>
    obtain ⟨rfl, -⟩ := List.append_inj' hevents rfl
    exact hbefore

/-- Every run has its entry, which is the newest one if nothing but deletions follows. -/
theorem exists_entry (h : Chronicle (front ++ .run run :: back) entries) : ∃ entry ∈ entries,
    run.Recorded (Event.standing? front) entry ∧
      ((∀ event ∈ back, event = .deletion) → entries.getLast? = some entry) := by
  induction back using List.reverseRecOn generalizing entries with
  | nil =>
    obtain ⟨others, entry, rfl, -, hrecorded⟩ := h.of_run
    exact ⟨entry, by simp, hrecorded, fun _ => List.getLast?_concat⟩
  | append_singleton middle event ih =>
    rw [← List.cons_append, ← List.append_assoc] at h
    cases event with
    | run last =>
      obtain ⟨others, newest, rfl, hbefore, -⟩ := h.of_run
      obtain ⟨entry, hentry, hrecorded, -⟩ := ih hbefore
      refine ⟨entry, List.mem_append_left _ hentry, hrecorded, fun hall => ?_⟩
      cases hall (.run last) (by simp)
    | deletion =>
      obtain ⟨entry, hentry, hrecorded, hnewest⟩ := ih h.of_deletion
      exact ⟨entry, hentry, hrecorded,
        fun hall => hnewest fun event hevent => hall event (by simp [hevent])⟩

end Chronicle

namespace Course

variable {store : Store} {start workspace : Workspace} {events : List Event}

/-- What a store holds after each event of a course. -/
theorem exists_entries (hstart : store.Ready start.tree) (h : Course store start events workspace) :
    ∃ entries, store.Holds workspace.tree entries ((Event.standing? events).map FullRun.baseline) ∧
      Chronicle events entries := by
  induction h with
  | start => exact ⟨[], hstart.holds, .start⟩
  | edit _ hhere hnode ih =>
    obtain ⟨entries, hholds, hchronicle⟩ := ih
    exact ⟨entries, hholds.of_node hhere hnode, hchronicle⟩
  | @run events run _ hserves ih =>
    obtain ⟨entries, hholds, hchronicle⟩ := ih
    obtain ⟨entry, hentry, hafter⟩ := run.store_after hserves hholds
    refine ⟨entries ++ [entry], ?_, .run hchronicle (FullRun.recorded_of_entryOf hentry)⟩
    rwa [Event.standing?_run]
  | deletion _ ih =>
    obtain ⟨entries, hholds, hchronicle⟩ := ih
    obtain ⟨after, hclear, hafter⟩ := hholds.run_clearBaseline
    refine ⟨entries, ?_, .deletion hchronicle⟩
    rwa [Event.standing?_deletion, hclear]

end Course
end KotlinAudit
