import KotlinAudit.Proofs.Audit.Contribution
import KotlinAudit.Proofs.Audit.Persist
import KotlinAudit.Proofs.Discovery.Sighted
import KotlinAudit.Proofs.FileTree.Shelf

/-! Runs that complete: where files can be found, findings can be put together and the report can be
written down, nothing ends a run without an external linter. -/
namespace KotlinAudit.Audit

open Discovery (DiscoveryError Scanner)
open FileTree (PlainNames refusal?)

variable {audit : Audit} {request : Request} {workspace : Workspace} {files : List SourceFile}

theorem run_admitted {scanner : Scanner} {found : List SourceFile}
    (h : (scanner.filter found).mapError DiscoveryError.glob = .ok files) (workspace : Workspace) :
    (admitted scanner found).run.run workspace = (.ok files, workspace) := by
  rw [admitted_eq_discovered]
  exact run_discovered_eq_ok.2 ⟨h, rfl⟩

/-- All files below the root are found where they can be sighted. -/
theorem exists_run_allFiles {scanner : Scanner} {found : List SourceFile}
    (hfound : sighted scanner workspace.tree none = .ok found)
    (hfiles : (scanner.filter found).mapError DiscoveryError.glob = .ok files) :
    ∃ notices, (allFiles scanner).run.run workspace =
      (.ok files, { workspace with notices := notices }) := by
  have hcompletes : ∃ value after, (allFiles scanner).run.run workspace = (.ok value, after) := by
    obtain ⟨sightings, hscan, rfl⟩ := Outcome.map_eq_ok.1 hfound
    refine exists_run_bind rfl (exists_run_bind (run_discovered_eq_ok.2 ⟨hscan, rfl⟩) ?_)
    exact exists_run_bind rfl ⟨_, _, run_admitted hfiles _⟩
  obtain ⟨value, after, hrun⟩ := hcompletes
  obtain ⟨other, notices, hother, hvalue, rfl⟩ := run_allFiles_eq_ok hrun
  obtain rfl := Except.ok.inj (hfound.symm.trans hother)
  obtain rfl := Except.ok.inj (hfiles.symm.trans hvalue)
  exact ⟨notices, hrun⟩

theorem exists_run_targetFiles {scanner : Scanner} {paths : List Path} {found : List SourceFile}
    (hfound : sighted scanner workspace.tree (some paths) = .ok found)
    (hfiles : (scanner.filter found).mapError DiscoveryError.glob = .ok files) :
    ∃ notices, (targetFiles scanner paths).run.run workspace =
      (.ok files, { workspace with notices := notices }) := by
  have hcompletes : ∃ value after,
      (targetFiles scanner paths).run.run workspace = (.ok value, after) := by
    refine exists_run_bind rfl (exists_run_bind rfl ?_)
    exact exists_run_bind (run_discovered_eq_ok.2 ⟨hfound, rfl⟩) ⟨_, _, run_admitted hfiles _⟩
  obtain ⟨value, after, hrun⟩ := hcompletes
  obtain ⟨other, notices, hother, hvalue, rfl⟩ := run_targetFiles_eq_ok hrun
  obtain rfl := Except.ok.inj (hfound.symm.trans hother)
  obtain rfl := Except.ok.inj (hfiles.symm.trans hvalue)
  exact ⟨notices, hrun⟩

/-- Something that may be said first does not keep a run from completing. -/
theorem exists_run_after_notice {condition : Bool} {notice : Notice} {next : Unit → Run Result}
    (h : ∀ notices, ∃ result after,
      (next ()).run.run { workspace with notices := notices } = (.ok result, after)) :
    ∃ result after, (if condition then do let done ← liftM (Workspace.say notice); next done
      else next () : Run Result).run.run workspace = (.ok result, after) := by
  by_cases hcondition : condition
  · rw [if_pos hcondition]
    exact exists_run_bind rfl (h _)
  · rw [if_neg hcondition]
    exact h workspace.notices

/-- A request completes if its files are found and its execution completes. -/
theorem exists_run_perform (hlinter : audit.linter = none)
    (hfiles : audit.filesFor workspace.tree request.targets = .ok files)
    (hexecute : ∀ targets notices, ∃ result after,
      (audit.execute ⟨request.mode, files, audit.analyzersFor request, targets⟩).run.run
        { workspace with notices := notices } = (.ok result, after)) :
    ∃ result after, (audit.perform request).run.run workspace = (.ok result, after) := by
  obtain ⟨scanner, found, hscanner, hfound, hkept⟩ := filesFor_eq_ok.1 hfiles
  have hscan := run_scanner_eq_ok.2 ⟨hscanner, rfl⟩
  cases request with
  | full =>
    obtain ⟨said, hall⟩ := exists_run_allFiles hfound hkept
    obtain ⟨notices, hconfigured⟩ := audit.run_configuredAnalyzers { workspace with notices := said }
    refine exists_run_bind hscan (exists_run_bind hall ?_)
    exact exists_run_bind (run_lift_eq_ok.2 hconfigured) (hexecute _ _)
  | incremental paths =>
    obtain ⟨said, hall⟩ := exists_run_targetFiles hfound hkept
    obtain ⟨notices, hconfigured⟩ := audit.run_configuredAnalyzers { workspace with notices := said }
    refine exists_run_bind hscan (exists_run_bind hall ?_)
    exact exists_run_bind (run_lift_eq_ok.2 hconfigured) (hexecute _ _)
  | filtered paths ids =>
    simp only [analyzersFor, Request.mode] at hexecute
    unfold perform filtered
    refine exists_run_bind hscan ?_
    generalize audit.registry.select (ids.filter (· != Linter.analyzerId)) = selection at hexecute ⊢
    obtain ⟨selected, unknown⟩ := selection
    refine exists_run_bind rfl (exists_run_after_notice fun notices => ?_)
    simp only [hlinter, Option.isSome_none, Bool.and_false, Bool.not_false, Bool.and_true,
      Bool.false_eq_true, if_false, pure_bind]
    split_ifs
    · exact exists_run_bind rfl ⟨_, _, rfl⟩
    · cases paths with
      | none =>
        obtain ⟨said, hall⟩ : ∃ said, (allFiles scanner).run.run
            { workspace with notices := notices } = (.ok files, { workspace with notices := said }) :=
          exists_run_allFiles hfound hkept
        exact exists_run_bind hall (hexecute _ _)
      | some paths =>
        obtain ⟨said, hall⟩ : ∃ said, (targetFiles scanner paths).run.run
            { workspace with notices := notices } = (.ok files, { workspace with notices := said }) :=
          exists_run_targetFiles hfound hkept
        exact exists_run_bind hall (hexecute _ _)

/-- An execution completes if its findings are put together and its result can be written down. -/
theorem exists_run_execute (hlinter : audit.linter = none) {plan : Plan} {aggregate : Aggregate}
    (haggregate : Aggregate.ofFindings (audit.yield workspace.tree plan.analyzers plan.files) =
      .ok aggregate)
    (hpersist : ∀ notices phases, ∃ path after,
      (audit.persist ⟨aggregate.findings, aggregate.metrics, .zero, plan.files.length, plan.mode,
        none⟩).run.run { workspace with notices := notices, phases := phases } =
          (.ok path, after)) :
    ∃ result after, (audit.execute plan).run.run workspace = (.ok result, after) := by
  obtain ⟨notices, phases, hgather⟩ := run_gather_of_none hlinter plan (announced plan workspace)
  rw [run_execute, hgather]
  rw [run_conclude]
  rw [show audit.yield (announced plan workspace).tree plan.analyzers plan.files =
    audit.yield workspace.tree plan.analyzers plan.files from rfl, haggregate]
  refine exists_run_bind rfl ?_
  obtain ⟨path, after, hpath⟩ := hpersist _ _
  exact exists_run_bind hpath ⟨_, _, rfl⟩

/-- The first run completes if its files are found and its findings can be put together. -/
theorem exists_run_perform_first {aggregate : Aggregate} {moment : Moment}
    (hregistry : audit.registry = .bundled) (hlinter : audit.linter = none)
    (hstore : audit.store.Holds workspace.tree [] none)
    (hfiles : audit.filesFor workspace.tree request.targets = .ok files)
    (haggregate : Aggregate.ofFindings
      (audit.yield workspace.tree (audit.analyzersFor request) files) = .ok aggregate)
    (hmoment : Moment.ofMillis workspace.clock.time = .ok moment) :
    ∃ result after, (audit.perform request).run.run workspace = (.ok result, after) := by
  obtain ⟨metrics, hmetrics, rfl⟩ := Aggregate.ofFindings_eq_ok.1 haggregate
  refine exists_run_perform hlinter hfiles fun targets notices => ?_
  refine exists_run_execute hlinter haggregate fun said phases => ?_
  have hheld : audit.store.Holds ({ workspace with notices := said, phases := phases } :
      Workspace).tree [] none := hstore
  refine exists_run_persist_first hheld (Metrics.regular_of_ofFindings hmetrics) ?_ hmoment
  exact fun finding hfinding =>
    unbroken_of_mem_resolved (analyzersFor_spec hregistry request).1 hfinding

/-! ### A project of one file -/

/-- An audit of a project with one file, which can be written down. -/
def sample : Audit where
  config := ⟨⟨1, ["src"]⟩, ⟨[], ["kt"]⟩, ⟨1, false, []⟩, .default,
    ⟨⟨1, ["out"]⟩, false, false, false⟩⟩
  registry := .bundled
  read := readSource
  linter := none

def sampleTree : FileTree where
  root := .directory [("out", .directory []),
    ("src", .directory [("A.kt", .file (.text "class A\n") 0)])]
  here := ⟨1, []⟩

def sampleStart : Workspace := .ofTree sampleTree ⟨0, 1⟩

def sampleFile : SourceFile := ⟨⟨1, ["src", "A.kt"]⟩, "A.kt", 8, Discovery.millisOf 0, Layer.detect "A.kt"⟩

theorem sample_node {names : List String} {node : Node} (hpath : refusal? ⟨1, names⟩ = none)
    (hnames : PlainNames names) (hnode : ∀ target, node ≠ .link target)
    (h : sampleTree.root.at? names = some node) : sampleTree.node ⟨1, names⟩ = .ok node :=
  FileTree.node_of_at? hpath hnames hnode h

theorem sample_source : sampleTree.node ⟨1, ["src", "A.kt"]⟩ = .ok (.file (.text "class A\n") 0) :=
  sample_node (by decide) (by decide) (fun _ h => by cases h) rfl

theorem sample_root : sampleTree.node ⟨1, ["src"]⟩ =
    .ok (.directory [("A.kt", .file (.text "class A\n") 0)]) :=
  sample_node (by decide) (by decide) (fun _ h => by cases h) rfl

theorem sample_out : sampleTree.node ⟨1, ["out"]⟩ = .ok (.directory []) :=
  sample_node (by decide) (by decide) (fun _ h => by cases h) rfl

theorem sample_scanner : sample.scannerIn sampleTree = .ok ⟨⟨1, ["src"]⟩, ⟨[], ["kt"]⟩⟩ := by
  have h : sampleTree.resolve ⟨1, ["src"]⟩ = .ok ⟨1, ["src"]⟩ :=
    FileTree.resolve_of_at? (by decide) (by decide) (fun _ h => by cases h) rfl
  unfold scannerIn Scanner.ofRoot
  rw [show sample.config.root = ⟨1, ["src"]⟩ from rfl, h]
  decide

def sampleScanner : Scanner := ⟨⟨1, ["src"]⟩, ⟨[], ["kt"]⟩⟩

theorem sample_sightFile : sampleScanner.sightFile sampleTree ⟨1, ["src", "A.kt"]⟩ =
    .ok [.source sampleFile] := by
  have hdescribe : sampleScanner.describe sampleTree ⟨1, ["src", "A.kt"]⟩ = .source sampleFile := by
    unfold Scanner.describe
    rw [sample_source]
    rfl
  unfold Scanner.sightFile
  rw [hdescribe]
  rfl

theorem sample_walk : sampleScanner.walk sampleTree ⟨1, ["src"]⟩
    (.directory [("A.kt", .file (.text "class A\n") 0)]) = .ok [.source sampleFile] := by
  have hchild : Path.child ⟨1, ["src"]⟩ "A.kt" = ⟨1, ["src", "A.kt"]⟩ := rfl
  rw [Scanner.walk, Scanner.walkEntries, Scanner.walkEntries, hchild,
    sample_sightFile]
  unfold Scanner.together
  rw [List.mergeSort_singleton]
  rfl

theorem sample_files : sample.filesFor sampleTree none = .ok [sampleFile] := by
  have hsighted : sighted sampleScanner sampleTree none = .ok [sampleFile] := by
    have hnode : sampleTree.node? ⟨1, ["src"]⟩ =
        .ok (some (.directory [("A.kt", .file (.text "class A\n") 0)])) := by
      rw [FileTree.node?, sample_root]
    unfold sighted Scanner.scan
    rw [show sampleScanner.root = ⟨1, ["src"]⟩ from rfl, Scanner.scanAt_of_node? hnode, sample_walk]
    rfl
  refine filesFor_eq_ok.2 ⟨_, _, sample_scanner, hsighted, rfl⟩

theorem sample_read : sample.read sampleTree sampleFile = .ok "class A\n".toList := by
  change readSource sampleTree sampleFile = _
  unfold readSource FileTree.readText FileTree.content
  rw [show sampleFile.path = ⟨1, ["src", "A.kt"]⟩ from rfl, sample_source]
  decide

theorem sample_aggregate : ∃ aggregate,
    Aggregate.ofFindings (sample.yield sampleTree bundledAnalyzers [sampleFile]) = .ok aggregate := by
  rw [yield, List.flatMap_singleton, foundIn, sample_read]
  have h : (Aggregate.ofFindings
      (bundledAnalyzers.flatMap (found sampleTree.hasFile sampleFile "class A\n".toList))).isOk := by
    decide +kernel
  cases haggregate : Aggregate.ofFindings
      (bundledAnalyzers.flatMap (found sampleTree.hasFile sampleFile "class A\n".toList)) with
  | ok aggregate => exact ⟨aggregate, rfl⟩
  | error error =>
    rw [haggregate] at h
    cases h

theorem sample_ready : sample.store.Ready sampleTree := by
  have hadmits : ∀ name ∈ Store.fileNames,
      refusal? (sampleTree.absolute (sample.store.directory.child name)) = none ∧
        name ≠ ".." ∧ name.utf8ByteSize ≤ FileTree.maxNameSize := by decide
  refine ⟨rfl, sample_out, fun name hname => ?_⟩
  obtain ⟨hpath, hnotUp, hsize⟩ := hadmits name hname
  exact ⟨hpath, hnotUp, hsize⟩

theorem sample_completes {request : Request} (htargets : request.targets = none)
    (hanalyzers : sample.analyzersFor request = bundledAnalyzers) :
    ∃ result after, (sample.perform request).run.run sampleStart = (.ok result, after) := by
  obtain ⟨aggregate, haggregate⟩ := sample_aggregate
  have hmoment : Moment.ofMillis 0 = .ok ⟨1970, 1, 1, 0, 0, 0⟩ := by decide +kernel
  rw [← hanalyzers] at haggregate
  exact exists_run_perform_first rfl rfl sample_ready.holds
    (show sample.filesFor sampleTree request.targets = .ok [sampleFile] from
      htargets ▸ sample_files) haggregate hmoment

end KotlinAudit.Audit
