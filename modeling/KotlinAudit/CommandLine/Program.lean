import KotlinAudit.Audit.Run
import KotlinAudit.Bundled
import KotlinAudit.CommandLine.Request
import KotlinAudit.Config.Load
import KotlinAudit.Console.Overview
import KotlinAudit.Linter.Local

/-! The program behind the command line: what a request prints and how it ends. -/
namespace KotlinAudit.CommandLine

structure Outcome where
  exitCode : Int
  lines : List String
deriving DecidableEq, Repr

/-- The exit code of a run that finds what must not be there, and of one that breaks down. -/
def failureCode : Int := 1

/-- The exit code of a request that cannot be served. -/
def refusedCode : Int := 2

def shown (output : Config.Output) (notices : List Notice) : List String :=
  (notices.filter fun notice => output.verbose || !notice.isDebug).map (·.line output.emoji)

inductive Breakdown
  | place (error : FileError)
  | settings (error : Config.LoadError)
  | run (error : RunError)
  | moment (error : MomentError)
  | markup (fault : Console.Markup.Fault)
deriving DecidableEq, Repr

inductive NoSettings
  | refused (outcome : Outcome)
  | broken (breakdown : Breakdown)

def settings (tree : FileTree) (processors : Option Int) (source : Source) :
    Except NoSettings Config :=
  match tree.resolve source.root with
  | .error error => .error (.broken (.place error))
  | .ok root =>
    match Config.load tree root processors source.configFile with
    | .ok config => .ok (source.overrides.apply config)
    | .error error =>
      if error.isReported then
        .error (.refused ⟨refusedCode, [(Notice.fail error.message).line false]⟩)
      else .error (.broken (.settings error))

def Choice.run (choice : Choice) (audit : Audit) : Run Result :=
  let paths := if choice.paths.isEmpty then none else some choice.paths
  if !choice.analyzers.isEmpty then audit.filtered paths choice.analyzers
  else match paths with
    | some paths => audit.incremental paths
    | none => audit.full

def auditOf (runner : Linter.Runner) (config : Config) (tree : FileTree) :
    Except FileError Audit := do
  let linter ← if config.execution.enableLinter then
      (config.linterSetup tree).map fun setup => some (setup.external runner)
    else .ok none
  return ⟨config, .bundled, Audit.readSource, linter⟩

def criticalCount (result : Result) : Int := result.metrics.byPriority.get .critical

def ending (choice : Choice) (output : Config.Output) (result : Result) : Outcome :=
  let count := criticalCount result
  if choice.failOnCritical && count != 0 then
    let glyph := if output.emoji then "❌ " else ""
    ⟨failureCode, [glyph ++ toString count ++ " critical finding(s)"]⟩
  else ⟨0, []⟩

/-- How a run without a result ends, where it has an outcome. -/
def refused? (output : Config.Output) : RunError → Option Outcome
  | .discovery (.missing path) =>
    some ⟨refusedCode, shown output [.fail (Discovery.DiscoveryError.message (.missing path))]⟩
  | .discovery (.notDirectory path) =>
    some ⟨refusedCode, shown output [.fail (Discovery.DiscoveryError.message (.notDirectory path))]⟩
  | _ => none

/-- The end of a request: its outcome or what has ended it, and the workspace that it leaves. -/
abbrev End := Except Breakdown Outcome × Workspace

def endWithout (workspace : Workspace) : NoSettings → End
  | .refused outcome => (.ok outcome, workspace)
  | .broken breakdown => (.error breakdown, workspace)

def analyze (runner : Linter.Runner) (processors : Option Int) (source : Source) (choice : Choice)
    (workspace : Workspace) : End :=
  match settings workspace.tree processors source with
  | .error missing => endWithout workspace missing
  | .ok config =>
    match auditOf runner config workspace.tree with
    | .error error => (.error (.place error), workspace)
    | .ok audit =>
      let fresh := Workspace.ofTree workspace.tree workspace.clock
      let (result, after) := (choice.run audit).run.run fresh
      let opening := Console.headingLines "Code Quality Analysis".toList config.output.color ++
        shown config.output after.notices
      match result with
      | .error error =>
        match refused? config.output error with
        | some last => (.ok ⟨last.exitCode, opening ++ last.lines⟩, after)
        | none => (.error (.run error), after)
      | .ok result =>
        let last := ending choice config.output result
        (.ok ⟨last.exitCode, opening ++ Console.summaryLines result ++ last.lines⟩, after)

def padded (width : Nat) (text : String) : String :=
  text ++ String.ofList (List.replicate (width - text.length) ' ')

def listing (id category name : String) : String :=
  padded 22 id ++ " " ++ padded 22 category ++ " " ++ name

def analyzersListing : Outcome :=
  ⟨0, (bundledAnalyzers.map fun analyzer =>
      listing analyzer.id analyzer.category.name analyzer.name) ++
    [listing Linter.analyzerId "(external)" "Detekt static analysis"]⟩

/-- The comparison of the newest entry that has one. -/
def comparisonOf (output : Config.Output) (entries : List HistoryEntry) :
    Except Breakdown Outcome :=
  match entries.find? (·.comparison.isSome) with
  | some ⟨timestamp, _, count, _, some comparison⟩ => do
    let moment ← (Moment.ofMillis timestamp).mapError .moment
    let lines ← (Console.comparisonLines comparison output.color output.emoji).mapError .markup
    return ⟨0, ("Run of " ++ moment.text ++ ": " ++ toString count ++ " finding(s)") :: lines⟩
  | _ => .ok ⟨0, ["No comparison recorded yet. Run 'codeqa analyze' at least twice."]⟩

def compare (processors : Option Int) (source : Source) (workspace : Workspace) : End :=
  match settings workspace.tree processors source with
  | .error missing => endWithout workspace missing
  | .ok config =>
    let fresh := Workspace.ofTree workspace.tree workspace.clock
    let (entries, after) := (Store.mk config.outputDirectory).loadHistory.run fresh
    match entries with
    | .error error => (.error (.place error), after)
    | .ok entries =>
      match comparisonOf config.output entries with
      | .error error => (.error error, after)
      | .ok last =>
        let warnings := (after.notices.filter (!·.isDebug)).map (·.line config.output.emoji)
        (.ok ⟨last.exitCode, warnings ++ last.lines⟩, after)

/-- Serves a request. Paths that no system can be asked about end it at once. -/
def Request.serve (processors : Option Int) (request : Request) (workspace : Workspace) : End :=
  match request.paths.find? fun path => FileTree.refusal? path = some .nul with
  | some path => (.error (.place ⟨.nul, path⟩), workspace)
  | none =>
    match request with
    | analyze source choice =>
      CommandLine.analyze Linter.localRunner processors source choice workspace
    | analyzers => (.ok analyzersListing, workspace)
    | compare source => CommandLine.compare processors source workspace

end KotlinAudit.CommandLine
