import KotlinAudit.Aggregation
import KotlinAudit.Audit.Inspection
import KotlinAudit.Audit.Pool
import KotlinAudit.Baseline.Store
import KotlinAudit.Config.Basic
import KotlinAudit.Discovery.Scan
import KotlinAudit.Linter.Call
import KotlinAudit.Registry
import KotlinAudit.Report.Markdown

/-! Runs of an analysis: files are discovered and inspected, the external linter is asked, findings
are put together, and the outcome is written down. What goes wrong in a part is said and leaves the
other parts alone. -/
namespace KotlinAudit

/-- Looks at some paths with the rules of a configuration. -/
abbrev ExternalLinter := List Path → Path → Action (Except Failure (List Finding))

def Linter.Setup.external (setup : Linter.Setup) (runner : Linter.Runner) : ExternalLinter :=
  fun paths config => do
    match ← setup.run runner paths config with
    | .ok issues => return .ok (issues.map Linter.Issue.finding)
    | .error fault => return .error (.stated fault.message)

def Config.linterSetup (config : Config) (tree : FileTree) : Except FileError Linter.Setup :=
  (tree.resolve config.root).map fun root =>
    ⟨root, config.linter.executable, config.linter.timeout, config.linter.extraArguments,
      config.discovery.excludes⟩

inductive RunError
  | discovery (error : Discovery.DiscoveryError)
  | metrics (error : MetricsError)
  | report (error : ReportError)
  | change (error : ChangeError)
  /-- A path could not be asked for. -/
  | place (error : FileError)
deriving DecidableEq, Repr

abbrev Run := ExceptT RunError Action

structure Audit where
  config : Config
  registry : Registry
  read : Audit.SourceReader
  linter : Option ExternalLinter

namespace Audit

structure Plan where
  mode : Mode
  files : List SourceFile
  analyzers : List Analyzer
  /-- What the external linter looks at; it is not asked about nothing. -/
  lintTargets : List Path

def reportSuffix : Mode → String
  | .full => ""
  | .incremental => "-incremental"
  | .filtered => "-filtered"

def store (audit : Audit) : Store := ⟨audit.config.outputDirectory⟩

def discovered {α : Type} : Except Discovery.DiscoveryError α → Run α
  | .ok value => return value
  | .error error => throw (.discovery error)

def scanner (audit : Audit) : Run Discovery.Scanner := do
  discovered (Discovery.Scanner.ofRoot (← getThe Workspace).tree audit.config.root
    audit.config.selection)

/-- The inspections of files in their order, and what is said in the course of them. A single job
takes one file after the other; several jobs share the files. -/
def inspections (jobs : Int) (turns : List Nat) (work : SourceFile → Inspection)
    (files : List SourceFile) : List Inspection × List Notice :=
  if jobs ≤ 1 || files.length ≤ 1 then
    (files.map work, files.flatMap fun file => (work file).notices)
  else
    let pool := Pool.run jobs.toNat work files.length turns (.ofTasks files)
    (pool.results files.length, pool.finished.flatMap (·.2.notices))

def inspectAll (audit : Audit) (analyzers : List Analyzer) (files : List SourceFile) :
    Action (List Finding) := do
  let workspace ← get
  let (inspected, notices) := inspections audit.config.execution.jobs workspace.turns
    (inspect audit.read analyzers workspace.tree) files
  Workspace.sayAll notices
  Workspace.enterAll ((files.zip inspected).map fun (file, inspection) =>
    .inspected file.relative inspection.findings.length)
  let findings := inspected.flatMap (·.findings)
  Workspace.say (.debug ("analyzers produced " ++ toString findings.length ++ " finding(s)"))
  return findings

/-- The findings of the external linter, none if it fails. -/
def lint (audit : Audit) (targets : List Path) : Action (List Finding) := do
  match audit.linter, targets with
  | none, _ | _, [] => return []
  | some linter, targets =>
    match ← linter targets audit.config.linterConfigPath with
    | .error failure =>
      Workspace.say (.warn ("Linter failed: " ++ failure.message))
      return []
    | .ok findings =>
      Workspace.say (.debug ("linter produced " ++ toString findings.length ++ " finding(s)"))
      return findings

/-- Says what could not be written. Only what the system refuses is said and leaves the rest of the
run alone. -/
def sayFault (error : PersistError) : Run Unit := do
  if error.cause.isRefusal then Workspace.say (.fail error.message) else throw (.place error.cause)

def writeReport (audit : Audit) (result : Result) (baseline : Option Baseline) :
    Run (Option Path) := do
  match Report.document (← getThe Workspace).clock.time result baseline with
  | .error error => throw (.report error)
  | .ok text =>
    match ← Report.save audit.store.directory (reportSuffix result.mode) text with
    | .error error =>
      sayFault error
      return none
    | .ok path =>
      Workspace.say (.info ("Report written to " ++ path.text))
      return some path

def writeRecords (audit : Audit) (result : Result) (baseline : Option Baseline) : Run Unit := do
  match ← audit.store.record result.metrics result.findings baseline with
  | .error (.change error) => throw (.change error)
  | .error (.persist error) => sayFault error
  | .ok _ => pure ()
  match ← audit.store.saveBaseline result.metrics result.findings with
  | .error error => sayFault error
  | .ok _ => pure ()

/-- Writes a result down and tells where its report stands. Only full runs are compared with the
baseline and recorded. -/
def persist (audit : Audit) (result : Result) : Run (Option Path) := do
  if result.mode == .full then
    let baseline ← match ← audit.store.loadBaseline with
      | .ok baseline => pure baseline
      | .error error => throw (.place error)
    let path ← audit.writeReport result baseline
    audit.writeRecords result baseline
    return path
  else audit.writeReport result none

/-- All findings of a plan: those in its files, then those of the external linter. -/
def gather (audit : Audit) (plan : Plan) : Action (List Finding) := do
  let found ← audit.inspectAll plan.analyzers plan.files
  let linted ← audit.lint plan.lintTargets
  return found ++ linted

/-- Writes down what the findings of a plan have been put together to. -/
def deliver (audit : Audit) (plan : Plan) (aggregate : Aggregate) : Run Result := do
  Workspace.enter (.aggregated aggregate.findings.length)
  let result : Result := ⟨aggregate.findings, aggregate.metrics, .zero, plan.files.length,
    plan.mode, none⟩
  let path ← audit.persist result
  return { result with reportPath := path }

def conclude (audit : Audit) (plan : Plan) (findings : List Finding) : Run Result :=
  match Aggregate.ofFindings findings with
  | .error error => throw (.metrics error)
  | .ok aggregate => audit.deliver plan aggregate

def execute (audit : Audit) (plan : Plan) : Run Result := do
  Workspace.say (.info ("Analyzing " ++ toString plan.files.length ++ " file(s) with " ++
    toString plan.analyzers.length ++ " analyzer(s)"))
  Workspace.enter (.discovered plan.files.length)
  audit.conclude plan (← audit.gather plan)

def admitted (scanner : Discovery.Scanner) (files : List SourceFile) :
    Run (List SourceFile) :=
  match scanner.filter files with
  | .ok files => return files
  | .error error => throw (.discovery (.glob error))

def allFiles (scanner : Discovery.Scanner) : Run (List SourceFile) := do
  let found ← discovered (scanner.scan (← getThe Workspace).tree)
  Workspace.sayAll found.notices
  admitted scanner found.files

def targetFiles (scanner : Discovery.Scanner) (paths : List Path) : Run (List SourceFile) := do
  let (notices, outcome) := scanner.targets (← getThe Workspace).tree paths
  Workspace.sayAll notices
  admitted scanner (← discovered outcome)

/-- The analyzers that the configuration names; if it names none, all of them. -/
def configuredAnalyzers (audit : Audit) : Action (List Analyzer) := do
  if audit.config.execution.analyzers.isEmpty then return audit.registry.analyzers
  else
    let (selected, unknown) := audit.registry.select audit.config.execution.analyzers
    Workspace.sayAll (unknown.map fun id =>
      .warn ("Unknown analyzer '" ++ id ++ "' in configuration ignored"))
    return selected

def lintPaths (files : List SourceFile) : List Path := files.map fun file => Path.ofText file.relative

def full (audit : Audit) : Run Result := do
  let scanner ← audit.scanner
  let files ← allFiles scanner
  audit.execute ⟨.full, files, ← audit.configuredAnalyzers, [scanner.root]⟩

def incremental (audit : Audit) (paths : List Path) : Run Result := do
  let scanner ← audit.scanner
  let files ← targetFiles scanner paths
  audit.execute ⟨.incremental, files, ← audit.configuredAnalyzers, lintPaths files⟩

def nothingToDo : Result := ⟨[], .empty, .zero, 0, .filtered, none⟩

/-- Analyses files with the analyzers of some identifiers only; the external linter has one, too.
Without paths all files below the root are analysed. -/
def filtered (audit : Audit) (paths : Option (List Path)) (ids : List String) : Run Result := do
  let scanner ← audit.scanner
  let (selected, unknown) := audit.registry.select (ids.filter (· != Linter.analyzerId))
  Workspace.sayAll (unknown.map fun id => .warn ("Unknown analyzer '" ++ id ++ "' ignored"))
  let wanted := ids.contains Linter.analyzerId
  let asked := wanted && audit.linter.isSome
  if wanted && !asked then Workspace.say (.warn "Linter requested but not configured")
  if selected.isEmpty && !asked then
    Workspace.say (.warn "No valid analyzers selected; nothing to do")
    return nothingToDo
  let (files, targets) ← match paths with
    | none => do
      let files ← allFiles scanner
      pure (files, [scanner.root])
    | some paths => do
      let files ← targetFiles scanner paths
      pure (files, lintPaths files)
  audit.execute ⟨.filtered, files, selected, if asked then targets else []⟩

end Audit
end KotlinAudit
