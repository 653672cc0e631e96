import KotlinAudit.CommandLine.Program
import KotlinAudit.Proofs.Audit.Contribution
import KotlinAudit.Proofs.Audit.Progress

/-! How the program ends after a run: its exit code tells whether anything critical was collected,
although only one finding of each issue is counted. -/
namespace KotlinAudit.CommandLine

open FileTree (refusal?)

/-- The request that a choice makes. -/
def Choice.request (choice : Choice) : KotlinAudit.Request :=
  let paths := if choice.paths.isEmpty then none else some choice.paths
  if !choice.analyzers.isEmpty then .filtered paths choice.analyzers
  else match paths with
    | some paths => .incremental paths
    | none => .full

theorem Choice.run_eq_perform (choice : Choice) (audit : Audit) :
    choice.run audit = audit.perform choice.request := by
  unfold Choice.run Choice.request
  cases choice.analyzers with
  | cons id rest => rfl
  | nil => cases choice.paths <;> rfl

variable {runner : Linter.Runner} {processors : Option Int} {source : Source} {choice : Choice}
  {workspace after : Workspace} {config : Config} {audit : Audit} {result : Result}

theorem steady_of_auditOf {tree : FileTree} (h : auditOf runner config tree = .ok audit) :
    ∀ linter, audit.linter = some linter → linter.Steady := by
  intro linter hlinter
  unfold auditOf at h
  split_ifs at h
  · obtain ⟨chosen, hchosen, haudit⟩ := Outcome.bind_eq_ok.1 h
    cases haudit
    obtain ⟨setup, -, hsome⟩ := Outcome.map_eq_ok.1 hchosen
    cases hsome.trans hlinter
    exact setup.steady_external runner
  · cases h
    cases hlinter

/-- The exit code of a run with a result says whether there is anything critical in it. -/
theorem exitCode_ending (choice : Choice) (output : Config.Output) (result : Result) :
    (ending choice output result).exitCode =
      if choice.failOnCritical = true ∧ result.metrics.byPriority.get .critical ≠ 0 then 1 else 0 := by
  unfold ending criticalCount failureCode
  by_cases hfail : choice.failOnCritical = true
  · by_cases hcount : result.metrics.byPriority.get .critical = 0
    · simp [hfail, hcount]
    · simp [hfail, hcount]
  · simp [hfail]

/-- A run that completes ends with one exactly if it has to fail on what is critical and some finding
that it has collected is critical or about security, whoever has found it, and with zero otherwise. -/
theorem exitCode_analyze (hsettings : settings workspace.tree processors source = .ok config)
    (haudit : auditOf runner config workspace.tree = .ok audit)
    (hrun : (choice.run audit).run.run (.ofTree workspace.tree workspace.clock) =
      (.ok result, after)) :
    ∃ raw outcome,
      audit.collected choice.request (.ofTree workspace.tree workspace.clock) = .ok raw ∧
      analyze runner processors source choice workspace = (.ok outcome, after) ∧
      outcome.exitCode = if choice.failOnCritical = true ∧
        ∃ finding ∈ raw, finding.priority = .critical ∨ finding.category = .security then 1 else 0 := by
  have hperform := hrun
  rw [Choice.run_eq_perform] at hperform
  obtain ⟨raw, hraw, -, hcount⟩ := Audit.collected_of_perform (steady_of_auditOf haudit) hperform
  have hend : analyze runner processors source choice workspace = (.ok
      ⟨(ending choice config.output result).exitCode,
        Console.headingLines "Code Quality Analysis".toList config.output.color ++
          shown config.output after.notices ++ Console.summaryLines result ++
          (ending choice config.output result).lines⟩, after) := by
    unfold analyze
    rw [hsettings]
    dsimp only
    rw [haudit]
    dsimp only
    rw [hrun]
  have hcritical : result.metrics.byPriority.get .critical ≠ 0 ↔
      ∃ finding ∈ raw, finding.priority = .critical ∨ finding.category = .security := by
    rw [hcount, ← Aggregate.exists_critical_iff, Ne, Int.natCast_eq_zero, ← Ne, ← Nat.pos_iff_ne_zero,
      List.countP_pos_iff]
    simp only [beq_iff_eq]
  refine ⟨raw, _, hraw, hend, ?_⟩
  dsimp only
  rw [exitCode_ending]
  simp only [hcritical]

/-! ### A project with a secret -/

def sampleText : String := "val secret = \"01234567\"\n"

def sampleTree : FileTree where
  root := .directory [("out", .directory []),
    ("src", .directory [("A.kt", .file (.text sampleText) 0)])]
  here := ⟨1, []⟩

def sampleSource : Source where
  root := ⟨1, ["src"]⟩
  configFile := none
  overrides := ⟨some false, none, some ⟨1, ["out"]⟩, some 1, true, true, false⟩

/-- Only the analyzer for security runs. -/
def sampleChoice : Choice := ⟨[], ["security"], true⟩

def sampleConfig : Config :=
  ⟨⟨1, ["src"]⟩, .default, ⟨1, false, []⟩, .default, ⟨⟨1, ["out"]⟩, false, false, false⟩⟩

def sampleAudit : Audit := ⟨sampleConfig, .bundled, Audit.readSource, none⟩

def sampleFile : SourceFile :=
  ⟨⟨1, ["src", "A.kt"]⟩, "A.kt", 24, Discovery.millisOf 0, Layer.detect "A.kt"⟩

theorem sample_root : sampleTree.node ⟨1, ["src"]⟩ =
    .ok (.directory [("A.kt", .file (.text sampleText) 0)]) :=
  FileTree.node_of_at? (by decide) (by decide) (fun _ h => by cases h) rfl

theorem sample_source :
    sampleTree.node ⟨1, ["src", "A.kt"]⟩ = .ok (.file (.text sampleText) 0) :=
  FileTree.node_of_at? (by decide) (by decide) (fun _ h => by cases h) rfl

theorem sample_resolve : sampleTree.resolve ⟨1, ["src"]⟩ = .ok ⟨1, ["src"]⟩ :=
  FileTree.resolve_of_at? (by decide) (by decide) (fun _ h => by cases h) rfl

theorem sample_hasFile {name : String} (hname : sampleTree.Admits ⟨1, ["src"]⟩ name)
    (hnone : name ≠ "A.kt") : sampleTree.hasFile (Path.child ⟨1, ["src"]⟩ name) = .ok false := by
  have hlookup : [("A.kt", Node.file (.text sampleText) 0)].lookup name = none := by
    rw [List.lookup_cons, beq_eq_false_iff_ne.2 hnone]
    rfl
  have hnode := FileTree.node_child sample_root hname (by simp [hlookup])
  rw [hlookup] at hnode
  unfold FileTree.hasFile FileTree.node?
  rw [hnode]
  rfl

/-- Where no configuration is there, the settings are those that the source asks for. -/
theorem settings_of_missing {tree : FileTree} (hroot : tree.resolve ⟨1, ["src"]⟩ = .ok ⟨1, ["src"]⟩)
    (hown : tree.hasFile (Path.child ⟨1, ["src"]⟩ Config.fileName) = .ok false)
    (hshared : tree.hasFile (Path.child ⟨1, ["src"]⟩ Config.sharedFileName) = .ok false) :
    settings tree none sampleSource = .ok sampleConfig := by
  have hlocate : Config.locate tree ⟨1, ["src"]⟩ none = .ok (.table []) := by
    unfold Config.locate Config.isFile
    dsimp only
    rw [hown, hshared]
    rfl
  have hload : Config.load tree ⟨1, ["src"]⟩ none none =
      .ok ⟨⟨1, ["src"]⟩, .default, ⟨1, true, []⟩, .default, .default⟩ := by
    unfold Config.load
    rw [hlocate, show Config.defaultJobs? none = some 1 from by decide +kernel]
    rfl
  unfold settings
  rw [show sampleSource.root = ⟨1, ["src"]⟩ from rfl, hroot]
  dsimp only
  rw [show sampleSource.configFile = none from rfl, hload]
  rfl

theorem sample_settings : settings sampleTree none sampleSource = .ok sampleConfig :=
  settings_of_missing sample_resolve (sample_hasFile ⟨by decide, by decide, by decide⟩ (by decide))
    (sample_hasFile ⟨by decide, by decide, by decide⟩ (by decide))

theorem sample_audit : auditOf runner sampleConfig sampleTree = .ok sampleAudit := rfl

def sampleScanner : Discovery.Scanner :=
  ⟨⟨1, ["src"]⟩, .ofOptions Discovery.Selection.defaultExcludes Discovery.Selection.defaultExtensions⟩

theorem sample_scanner : sampleAudit.scannerIn sampleTree = .ok sampleScanner := by
  unfold Audit.scannerIn Discovery.Scanner.ofRoot
  rw [show sampleAudit.config.root = ⟨1, ["src"]⟩ from rfl, sample_resolve]
  rfl

theorem sample_excluded : sampleScanner.selection.isExcluded "A.kt".toList = .ok false := by
  have h : (sampleScanner.selection.isExcluded "A.kt".toList).toOption = some false := by
    decide +kernel
  cases hexcluded : sampleScanner.selection.isExcluded "A.kt".toList with
  | error error =>
    rw [hexcluded] at h
    cases h
  | ok excluded =>
    rw [hexcluded] at h
    cases h
    rfl

theorem sample_walk : sampleScanner.walk sampleTree ⟨1, ["src"]⟩
    (.directory [("A.kt", .file (.text sampleText) 0)]) = .ok [.source sampleFile] := by
  have hdescribe : sampleScanner.describe sampleTree ⟨1, ["src", "A.kt"]⟩ = .source sampleFile := by
    unfold Discovery.Scanner.describe
    rw [sample_source]
    rfl
  have hsight : sampleScanner.sightFile sampleTree ⟨1, ["src", "A.kt"]⟩ =
      .ok [.source sampleFile] := by
    unfold Discovery.Scanner.sightFile
    rw [show sampleScanner.relative ⟨1, ["src", "A.kt"]⟩ = "A.kt" from rfl, sample_excluded, hdescribe]
    rfl
  have hchild : Path.child ⟨1, ["src"]⟩ "A.kt" = ⟨1, ["src", "A.kt"]⟩ := rfl
  rw [Discovery.Scanner.walk, Discovery.Scanner.walkEntries, Discovery.Scanner.walkEntries, hchild,
    hsight]
  unfold Discovery.Scanner.together
  rw [List.mergeSort_singleton]
  rfl

theorem sample_files : sampleAudit.filesFor sampleTree none = .ok [sampleFile] := by
  have hsighted : Audit.sighted sampleScanner sampleTree none = .ok [sampleFile] := by
    have hnode : sampleTree.node? ⟨1, ["src"]⟩ =
        .ok (some (.directory [("A.kt", .file (.text sampleText) 0)])) := by
      rw [FileTree.node?, sample_root]
    unfold Audit.sighted Discovery.Scanner.scan
    rw [show sampleScanner.root = ⟨1, ["src"]⟩ from rfl, Discovery.Scanner.scanAt_of_node? hnode,
      sample_walk]
    rfl
  have hfilter : sampleScanner.filter [sampleFile] = .ok ([sampleFile].filter fun _ => true) := by
    refine Outcome.filterM_of_forall fun file hfile => ?_
    rw [List.mem_singleton.1 hfile]
    unfold Discovery.Selection.admits
    rw [show sampleFile.relative = "A.kt" from rfl, sample_excluded]
    rfl
  exact Audit.filesFor_eq_ok.2 ⟨_, _, sample_scanner, hsighted, by rw [hfilter]; rfl⟩

theorem sample_read : sampleAudit.read sampleTree sampleFile = .ok sampleText.toList := by
  change Audit.readSource sampleTree sampleFile = _
  unfold Audit.readSource FileTree.readText FileTree.content
  rw [show sampleFile.path = ⟨1, ["src", "A.kt"]⟩ from rfl, sample_source]
  decide

/-- What the analyzer for security finds. -/
def sampleFindings : List Finding :=
  (sampleAudit.analyzersFor sampleChoice.request).flatMap
    (Audit.found sampleTree.hasFile sampleFile sampleText.toList)

theorem sample_yield : sampleAudit.yield sampleTree (sampleAudit.analyzersFor sampleChoice.request)
    [sampleFile] = sampleFindings := by
  rw [Audit.yield, List.flatMap_singleton, Audit.foundIn, sample_read]
  rfl

theorem sample_critical :
    ∃ finding ∈ sampleFindings, finding.priority = .critical ∨ finding.category = .security := by
  decide +kernel

theorem sample_completes : ∃ result after,
    (sampleChoice.run sampleAudit).run.run (.ofTree sampleTree ⟨0, 1⟩) = (.ok result, after) := by
  have hready : sampleAudit.store.Ready sampleTree := by
    have hadmits : ∀ name ∈ Store.fileNames,
        refusal? (sampleTree.absolute (sampleAudit.store.directory.child name)) = none ∧
          name ≠ ".." ∧ name.utf8ByteSize ≤ FileTree.maxNameSize := by decide
    have hout : sampleTree.node ⟨1, ["out"]⟩ = .ok (.directory []) :=
      FileTree.node_of_at? (by decide) (by decide) (fun _ h => by cases h) rfl
    refine ⟨rfl, hout, fun name hname => ?_⟩
    obtain ⟨hpath, hnotUp, hsize⟩ := hadmits name hname
    exact ⟨hpath, hnotUp, hsize⟩
  have hmoment : Moment.ofMillis 0 = .ok ⟨1970, 1, 1, 0, 0, 0⟩ := by decide +kernel
  have haggregate : (Aggregate.ofFindings sampleFindings).isOk := by decide +kernel
  cases hfindings : Aggregate.ofFindings sampleFindings with
  | error error =>
    rw [hfindings] at haggregate
    cases haggregate
  | ok aggregate =>
    rw [← sample_yield] at hfindings
    rw [Choice.run_eq_perform]
    exact Audit.exists_run_perform_first rfl rfl hready.holds sample_files hfindings hmoment

/-- The secret makes the program fail. -/
theorem exitCode_analyze_sample : ∃ result after,
    settings sampleTree none sampleSource = .ok sampleConfig ∧
    auditOf Linter.localRunner sampleConfig sampleTree = .ok sampleAudit ∧
    (sampleChoice.run sampleAudit).run.run (.ofTree sampleTree ⟨0, 1⟩) = (.ok result, after) ∧
    ∃ outcome, analyze Linter.localRunner none sampleSource sampleChoice (.ofTree sampleTree ⟨0, 1⟩) =
      (.ok outcome, after) ∧ outcome.exitCode = 1 := by
  obtain ⟨result, after, hrun⟩ := sample_completes
  refine ⟨result, after, sample_settings, sample_audit, hrun, ?_⟩
  have hsettings : settings (Workspace.ofTree sampleTree ⟨0, 1⟩).tree none sampleSource =
      .ok sampleConfig := sample_settings
  have haudit : auditOf Linter.localRunner sampleConfig (Workspace.ofTree sampleTree ⟨0, 1⟩).tree =
      .ok sampleAudit := sample_audit
  obtain ⟨raw, outcome, hraw, hanalyze, hcode⟩ := exitCode_analyze hsettings haudit hrun
  refine ⟨outcome, hanalyze, ?_⟩
  have hcollected : sampleAudit.collected sampleChoice.request (.ofTree sampleTree ⟨0, 1⟩) =
      .ok sampleFindings := by
    unfold Audit.collected
    rw [show sampleAudit.isIdle sampleChoice.request = false from by decide]
    change (sampleAudit.scannerIn sampleTree >>= fun scanner =>
      sampleAudit.filesFor sampleTree none >>= fun files => _) = _
    rw [sample_scanner, sample_files]
    change Except.ok (sampleAudit.yield sampleTree _ [sampleFile] ++ []) = _
    rw [sample_yield, List.append_nil]
  obtain rfl := Except.ok.inj (hcollected.symm.trans hraw)
  rw [hcode, if_pos ⟨rfl, sample_critical⟩]

end KotlinAudit.CommandLine
