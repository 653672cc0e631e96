import KotlinAudit.Proofs.Aggregation.Resolved
import KotlinAudit.Proofs.Audit.Inspection

/-! Runs by what they are asked for. The request tells with which analyzers a run looks at which
files, and what the external linter is asked about; a run that completes has executed that plan. Without
an external linter its findings are those that are found in the files, put together. -/
namespace KotlinAudit

open Discovery (DiscoveryError Scanner)

/-- What a run is asked for. -/
inductive Request
  | full
  | incremental (paths : List Path)
  | filtered (paths : Option (List Path)) (ids : List String)
deriving DecidableEq, Repr

namespace Request

def mode : Request → Mode
  | full => .full
  | incremental _ => .incremental
  | filtered _ _ => .filtered

/-- The targets whose files are looked at, none for all files below the root. -/
def targets : Request → Option (List Path)
  | full => none
  | incremental paths => some paths
  | filtered paths _ => paths

end Request

namespace Audit

def perform (audit : Audit) : Request → Run Result
  | .full => audit.full
  | .incremental paths => audit.incremental paths
  | .filtered paths ids => audit.filtered paths ids

/-- The analyzers that the configuration names, all of them if it names none. -/
def configured (audit : Audit) : List Analyzer :=
  if audit.config.execution.analyzers.isEmpty then audit.registry.analyzers
  else (audit.registry.select audit.config.execution.analyzers).1

def analyzersFor (audit : Audit) : Request → List Analyzer
  | .filtered _ ids => (audit.registry.select (ids.filter (· != Linter.analyzerId))).1
  | _ => audit.configured

/-- Whether the external linter is asked for; a request for some analyzers has to name it. -/
def asksLinter (audit : Audit) : Request → Bool
  | .filtered _ ids => ids.contains Linter.analyzerId && audit.linter.isSome
  | _ => true

/-- Whether nothing is asked for that is there. -/
def isIdle (audit : Audit) (request : Request) : Bool :=
  (audit.analyzersFor request).isEmpty && !audit.asksLinter request

/-- What the external linter is asked about: everything below the root, or some files. -/
def lintTargetsFor (audit : Audit) (request : Request) (scanner : Scanner)
    (files : List SourceFile) : List Path :=
  if audit.asksLinter request then
    match request.targets with
    | none => [scanner.root]
    | some _ => lintPaths files
  else []

/-- The plan for a request whose files are known. -/
def planFor (audit : Audit) (request : Request) (scanner : Scanner) (files : List SourceFile) :
    Plan :=
  ⟨request.mode, files, audit.analyzersFor request, audit.lintTargetsFor request scanner files⟩

/-- The scanner of an audit in a tree. -/
def scannerIn (audit : Audit) (tree : FileTree) : Except DiscoveryError Scanner :=
  Scanner.ofRoot tree audit.config.root audit.config.selection

/-- The files that a scanner comes across, before they are filtered. -/
def sighted (scanner : Scanner) (tree : FileTree) :
    Option (List Path) → Except DiscoveryError (List SourceFile)
  | none => (scanner.scan tree).map (·.files)
  | some paths => (scanner.targets tree paths).2

/-- The files that are looked at for some targets. -/
def filesFor (audit : Audit) (tree : FileTree) (targets : Option (List Path)) :
    Except DiscoveryError (List SourceFile) := do
  let scanner ← audit.scannerIn tree
  (scanner.filter (← sighted scanner tree targets)).mapError DiscoveryError.glob

variable {audit : Audit} {request : Request} {workspace after : Workspace} {result : Result}

/-! ### Parts of runs -/

/-- A sequence of two parts completes when both of them do. -/
theorem run_bind_eq_ok {α β : Type} {first : Run α} {next : α → Run β} {value : β} :
    (first >>= next).run.run workspace = (.ok value, after) ↔
      ∃ middle between, first.run.run workspace = (.ok middle, between) ∧
        (next middle).run.run between = (.ok value, after) := by
  change (StateT.run (first.run >>= ExceptT.bindCont next)) workspace = _ ↔ _
  rw [StateT.run_bind]
  obtain ⟨outcome, between⟩ := first.run.run workspace
  cases outcome with
  | error error =>
    constructor
    · intro h
      cases h
    · rintro ⟨middle, between, h, -⟩
      cases h
  | ok middle =>
    constructor
    · intro h
      exact ⟨middle, between, rfl, h⟩
    · rintro ⟨other, state, h, hnext⟩
      cases h
      exact hnext

theorem run_discovered_eq_ok {α : Type} {outcome : Except DiscoveryError α} {value : α} :
    (discovered outcome).run.run workspace = (.ok value, after) ↔
      outcome = .ok value ∧ workspace = after := by
  cases outcome with
  | error error =>
    constructor
    · intro h
      cases h
    · rintro ⟨h, -⟩
      cases h
  | ok found =>
    constructor
    · intro h
      cases h
      exact ⟨rfl, rfl⟩
    · rintro ⟨h, rfl⟩
      cases h
      rfl

/-- An action that is part of a run always completes. -/
theorem run_lift_eq_ok {α : Type} {action : Action α} {value : α} :
    (liftM action : Run α).run.run workspace = (.ok value, after) ↔
      action.run workspace = (value, after) := by
  change StateT.run (action >>= fun value => pure (Except.ok value)) workspace = _ ↔ _
  rw [StateT.run_bind]
  obtain ⟨outcome, between⟩ := action.run workspace
  constructor
  · intro h
    cases h
    rfl
  · intro h
    cases h
    rfl

theorem admitted_eq_discovered (scanner : Scanner) (files : List SourceFile) :
    admitted scanner files = discovered ((scanner.filter files).mapError DiscoveryError.glob) := by
  unfold admitted
  cases scanner.filter files <;> rfl

theorem run_scanner_eq_ok {scanner : Scanner} :
    audit.scanner.run.run workspace = (.ok scanner, after) ↔
      audit.scannerIn workspace.tree = .ok scanner ∧ workspace = after :=
  run_discovered_eq_ok

/-- Looking up all files says something and changes nothing. -/
theorem run_allFiles_eq_ok {scanner : Scanner} {files : List SourceFile}
    (h : (allFiles scanner).run.run workspace = (.ok files, after)) :
    ∃ found notices, sighted scanner workspace.tree none = .ok found ∧
      (scanner.filter found).mapError DiscoveryError.glob = .ok files ∧
      after = { workspace with notices := notices } := by
  unfold allFiles at h
  obtain ⟨_, _, hget, hscan⟩ := run_bind_eq_ok.1 h
  cases hget
  obtain ⟨found, _, hfound, hsaid⟩ := run_bind_eq_ok.1 hscan
  obtain ⟨hsighted, rfl⟩ := run_discovered_eq_ok.1 hfound
  obtain ⟨_, _, hsay, hfilter⟩ := run_bind_eq_ok.1 hsaid
  cases hsay
  rw [admitted_eq_discovered] at hfilter
  obtain ⟨hfiles, rfl⟩ := run_discovered_eq_ok.1 hfilter
  exact ⟨found.files, _, by rw [sighted, hsighted]; rfl, hfiles, rfl⟩

theorem run_targetFiles_eq_ok {scanner : Scanner} {paths : List Path} {files : List SourceFile}
    (h : (targetFiles scanner paths).run.run workspace = (.ok files, after)) :
    ∃ found notices, sighted scanner workspace.tree (some paths) = .ok found ∧
      (scanner.filter found).mapError DiscoveryError.glob = .ok files ∧
      after = { workspace with notices := notices } := by
  unfold targetFiles at h
  obtain ⟨_, _, hget, hscan⟩ := run_bind_eq_ok.1 h
  cases hget
  obtain ⟨_, _, hsay, hsaid⟩ := run_bind_eq_ok.1 hscan
  cases hsay
  obtain ⟨found, _, hfound, hfilter⟩ := run_bind_eq_ok.1 hsaid
  obtain ⟨hsighted, rfl⟩ := run_discovered_eq_ok.1 hfound
  rw [admitted_eq_discovered] at hfilter
  obtain ⟨hfiles, rfl⟩ := run_discovered_eq_ok.1 hfilter
  exact ⟨found, _, hsighted, hfiles, rfl⟩

theorem filesFor_eq_ok {tree : FileTree} {targets : Option (List Path)} {files : List SourceFile} :
    audit.filesFor tree targets = .ok files ↔
      ∃ scanner found, audit.scannerIn tree = .ok scanner ∧
        sighted scanner tree targets = .ok found ∧
        (scanner.filter found).mapError DiscoveryError.glob = .ok files := by
  unfold filesFor
  rw [Outcome.bind_eq_ok]
  constructor
  · rintro ⟨scanner, hscanner, h⟩
    obtain ⟨found, hfound, hfiles⟩ := Outcome.bind_eq_ok.1 h
    exact ⟨scanner, found, hscanner, hfound, hfiles⟩
  · rintro ⟨scanner, found, hscanner, hfound, hfiles⟩
    exact ⟨scanner, hscanner, Outcome.bind_eq_ok.2 ⟨found, hfound, hfiles⟩⟩

theorem run_configuredAnalyzers (audit : Audit) (workspace : Workspace) :
    ∃ notices, audit.configuredAnalyzers.run workspace =
      (audit.configured, { workspace with notices := notices }) := by
  unfold configuredAnalyzers configured
  split_ifs
  · exact ⟨_, rfl⟩
  · exact ⟨_, rfl⟩

/-! ### Whole runs -/

/-- An execution of what a request asks for, begun with nothing but something said. -/
def Executes (audit : Audit) (request : Request) (files : List SourceFile)
    (workspace : Workspace) (result : Result) (after : Workspace) : Prop :=
  ∃ targets notices,
    (audit.execute ⟨request.mode, files, audit.analyzersFor request, targets⟩).run.run
      { workspace with notices := notices } = (.ok result, after)

/-- An execution of the plan for a request, begun with nothing but something said. -/
def Carries (audit : Audit) (request : Request) (scanner : Scanner) (files : List SourceFile)
    (workspace : Workspace) (result : Result) (after : Workspace) : Prop :=
  audit.isIdle request = false ∧
  audit.scannerIn workspace.tree = .ok scanner ∧
  audit.filesFor workspace.tree request.targets = .ok files ∧
  ∃ notices, (audit.execute (audit.planFor request scanner files)).run.run
    { workspace with notices := notices } = (.ok result, after)

theorem run_full_eq_ok (h : audit.full.run.run workspace = (.ok result, after)) :
    ∃ scanner files, audit.Carries .full scanner files workspace result after := by
  unfold full at h
  obtain ⟨scanner, _, hrun, hrest⟩ := run_bind_eq_ok.1 h
  obtain ⟨hscanner, rfl⟩ := run_scanner_eq_ok.1 hrun
  obtain ⟨files, _, hfiles, hlast⟩ := run_bind_eq_ok.1 hrest
  obtain ⟨found, said, hfound, hfiltered, rfl⟩ := run_allFiles_eq_ok hfiles
  obtain ⟨analyzers, _, hanalyzers, hexecute⟩ := run_bind_eq_ok.1 hlast
  obtain ⟨notices, hconfigured⟩ := audit.run_configuredAnalyzers { workspace with notices := said }
  rw [run_lift_eq_ok, hconfigured] at hanalyzers
  cases hanalyzers
  exact ⟨scanner, files, Bool.and_false _, hscanner,
    filesFor_eq_ok.2 ⟨scanner, found, hscanner, hfound, hfiltered⟩, _, hexecute⟩

theorem run_incremental_eq_ok {paths : List Path}
    (h : (audit.incremental paths).run.run workspace = (.ok result, after)) :
    ∃ scanner files, audit.Carries (.incremental paths) scanner files workspace result after := by
  unfold incremental at h
  obtain ⟨scanner, _, hrun, hrest⟩ := run_bind_eq_ok.1 h
  obtain ⟨hscanner, rfl⟩ := run_scanner_eq_ok.1 hrun
  obtain ⟨files, _, hfiles, hlast⟩ := run_bind_eq_ok.1 hrest
  obtain ⟨found, said, hfound, hfiltered, rfl⟩ := run_targetFiles_eq_ok hfiles
  obtain ⟨analyzers, _, hanalyzers, hexecute⟩ := run_bind_eq_ok.1 hlast
  obtain ⟨notices, hconfigured⟩ := audit.run_configuredAnalyzers { workspace with notices := said }
  rw [run_lift_eq_ok, hconfigured] at hanalyzers
  cases hanalyzers
  exact ⟨scanner, files, Bool.and_false _, hscanner,
    filesFor_eq_ok.2 ⟨scanner, found, hscanner, hfound, hfiltered⟩, _, hexecute⟩

/-- Something that may be said first changes nothing else. -/
theorem run_after_notice {condition : Bool} {notice : Notice} {next : Unit → Run Result}
    (h : (if condition then do let done ← liftM (Workspace.say notice); next done
      else next () : Run Result).run.run workspace = (.ok result, after)) :
    ∃ notices, (next ()).run.run { workspace with notices := notices } = (.ok result, after) := by
  split_ifs at h
  · obtain ⟨_, _, hsay, hnext⟩ := run_bind_eq_ok.1 h
    cases run_lift_eq_ok.1 hsay
    exact ⟨_, hnext⟩
  · exact ⟨_, h⟩

/-- A filtered run executes its request, unless nothing is asked for that is there. -/
theorem run_filtered_eq_ok {paths : Option (List Path)} {ids : List String}
    (h : (audit.filtered paths ids).run.run workspace = (.ok result, after)) :
    (∃ scanner files, audit.Carries (.filtered paths ids) scanner files workspace result after) ∨
    (audit.isIdle (.filtered paths ids) = true ∧ result = nothingToDo ∧
      ∃ notices, after = { workspace with notices := notices }) := by
  unfold filtered at h
  obtain ⟨scanner, _, hrun, hrest⟩ := run_bind_eq_ok.1 h
  obtain ⟨hscanner, rfl⟩ := run_scanner_eq_ok.1 hrun
  simp only [isIdle, Carries, planFor, analyzersFor, asksLinter, Request.mode, Request.targets]
  generalize audit.registry.select (ids.filter (· != Linter.analyzerId)) = selection at hrest ⊢
  obtain ⟨selected, unknown⟩ := selection
  obtain ⟨_, _, hsay, hwarned⟩ := run_bind_eq_ok.1 hrest
  cases run_lift_eq_ok.1 hsay
  obtain ⟨notices, hask⟩ := run_after_notice hwarned
  by_cases hnone :
      (selected.isEmpty && !(ids.contains Linter.analyzerId && audit.linter.isSome)) = true
  · rw [if_pos hnone] at hask
    obtain ⟨_, _, hsay, hnothing⟩ := run_bind_eq_ok.1 hask
    cases run_lift_eq_ok.1 hsay
    cases hnothing
    exact .inr ⟨hnone, rfl, _, rfl⟩
  · rw [if_neg hnone] at hask
    left
    cases paths with
    | none =>
      obtain ⟨files, _, hall, hexecute⟩ := run_bind_eq_ok.1 hask
      obtain ⟨found, said, hfound, hfiltered, rfl⟩ := run_allFiles_eq_ok hall
      rw [pure_bind] at hexecute
      exact ⟨scanner, files, Bool.eq_false_iff.2 hnone, hscanner,
        filesFor_eq_ok.2 ⟨scanner, found, hscanner, hfound, hfiltered⟩, said, hexecute⟩
    | some paths =>
      obtain ⟨files, _, hall, hexecute⟩ := run_bind_eq_ok.1 hask
      obtain ⟨found, said, hfound, hfiltered, rfl⟩ := run_targetFiles_eq_ok hall
      rw [pure_bind] at hexecute
      exact ⟨scanner, files, Bool.eq_false_iff.2 hnone, hscanner,
        filesFor_eq_ok.2 ⟨scanner, found, hscanner, hfound, hfiltered⟩, said, hexecute⟩

/-- A run that completes has executed its request, unless nothing was asked for that is there. -/
theorem run_perform_carries (h : (audit.perform request).run.run workspace = (.ok result, after)) :
    (∃ scanner files, audit.Carries request scanner files workspace result after) ∨
    (request.mode = .filtered ∧ audit.isIdle request = true ∧ result = nothingToDo ∧
      ∃ notices, after = { workspace with notices := notices }) := by
  cases request with
  | full => exact .inl (run_full_eq_ok h)
  | incremental paths => exact .inl (run_incremental_eq_ok h)
  | filtered paths ids =>
    rcases run_filtered_eq_ok h with hcarries | hnothing
    · exact .inl hcarries
    · exact .inr ⟨rfl, hnothing⟩

theorem run_perform_eq_ok
    (h : (audit.perform request).run.run workspace = (.ok result, after)) :
    (∃ files, audit.filesFor workspace.tree request.targets = .ok files ∧
      audit.Executes request files workspace result after) ∨
    (request.mode = .filtered ∧ audit.analyzersFor request = [] ∧ result = nothingToDo ∧
      ∃ notices, after = { workspace with notices := notices }) := by
  rcases run_perform_carries h with ⟨scanner, files, -, -, hfiles, hexecute⟩ | ⟨hmode, hidle, hnothing⟩
  · exact .inl ⟨files, hfiles, _, hexecute⟩
  · rw [isIdle, Bool.and_eq_true] at hidle
    exact .inr ⟨hmode, List.isEmpty_iff.1 hidle.1, hnothing⟩

/-! ### What an execution puts together -/

/-- What some analyzers find in some files, one file after the other. -/
def yield (audit : Audit) (tree : FileTree) (analyzers : List Analyzer) (files : List SourceFile) :
    List Finding :=
  files.flatMap (foundIn audit.read analyzers tree)

/-- Without an external linter gathering changes nothing but the protocol. -/
theorem run_gather_of_none (hlinter : audit.linter = none) (plan : Plan) (workspace : Workspace) :
    ∃ notices phases, (audit.gather plan).run workspace =
      (audit.yield workspace.tree plan.analyzers plan.files,
        { workspace with notices := notices, phases := phases }) := by
  obtain ⟨notices, phases, said, h⟩ := audit.run_gather plan workspace
  refine ⟨said, phases, ?_⟩
  rw [h]
  simp only [lintAnswer, afterLinter, hlinter]
  exact congrArg (·, _) (List.append_nil _)

theorem run_conclude_eq_ok {plan : Plan} {findings : List Finding}
    (h : (audit.conclude plan findings).run.run workspace = (.ok result, after)) :
    ∃ aggregate path phases, Aggregate.ofFindings findings = .ok aggregate ∧
      (audit.persist ⟨aggregate.findings, aggregate.metrics, .zero, plan.files.length, plan.mode,
        none⟩).run.run { workspace with phases := phases } = (.ok path, after) ∧
      result = ⟨aggregate.findings, aggregate.metrics, .zero, plan.files.length, plan.mode, path⟩ := by
  rw [run_conclude] at h
  cases haggregate : Aggregate.ofFindings findings with
  | error error =>
    rw [haggregate] at h
    cases h
  | ok aggregate =>
    rw [haggregate] at h
    dsimp only at h
    unfold deliver at h
    obtain ⟨_, _, henter, hpersist⟩ := run_bind_eq_ok.1 h
    cases run_lift_eq_ok.1 henter
    obtain ⟨path, _, hpath, hresult⟩ := run_bind_eq_ok.1 hpersist
    cases hresult
    exact ⟨aggregate, path, _, rfl, hpath, rfl⟩

/-- An execution puts together what its analyzers find in its files, and writes that down. -/
theorem eq_ok_of_executes (hlinter : audit.linter = none) {files : List SourceFile}
    (h : audit.Executes request files workspace result after) :
    ∃ aggregate path notices phases,
      Aggregate.ofFindings (audit.yield workspace.tree (audit.analyzersFor request) files) =
        .ok aggregate ∧
      (audit.persist ⟨aggregate.findings, aggregate.metrics, .zero, files.length, request.mode,
        none⟩).run.run { workspace with notices := notices, phases := phases } = (.ok path, after) ∧
      result =
        ⟨aggregate.findings, aggregate.metrics, .zero, files.length, request.mode, path⟩ := by
  obtain ⟨targets, said, hexecute⟩ := h
  rw [run_execute] at hexecute
  obtain ⟨notices, phases, hgather⟩ := run_gather_of_none hlinter
    ⟨request.mode, files, audit.analyzersFor request, targets⟩
    (announced ⟨request.mode, files, audit.analyzersFor request, targets⟩
      { workspace with notices := said })
  rw [hgather] at hexecute
  obtain ⟨aggregate, path, phases, haggregate, hpersist, hresult⟩ := run_conclude_eq_ok hexecute
  exact ⟨aggregate, path, notices, phases, haggregate, hpersist, hresult⟩

/-- The findings of an execution are those that its analyzers find in its files, put together. -/
theorem findings_of_executes (hlinter : audit.linter = none) {files : List SourceFile}
    (h : audit.Executes request files workspace result after) :
    result.findings = Aggregate.resolved
        (audit.yield workspace.tree (audit.analyzersFor request) files) ∧
      Metrics.ofFindings result.findings = .ok result.metrics := by
  obtain ⟨aggregate, path, notices, phases, haggregate, -, rfl⟩ := eq_ok_of_executes hlinter h
  obtain ⟨metrics, hmetrics, rfl⟩ := Aggregate.ofFindings_eq_ok.1 haggregate
  exact ⟨rfl, hmetrics⟩

end Audit
end KotlinAudit
