import KotlinAudit.Discovery.Selection
import KotlinAudit.Record.Field
import KotlinAudit.Setting.Basic

/-! What an analysis can be told: which files count, how the work is done, how the external linter
is called, and where results go. -/
namespace KotlinAudit

open Decimal (Binary64)
open Record (Checked)

namespace Config

structure Discovery where
  excludes : List String
  /-- Extensions in lower case without a dot. -/
  extensions : List String
deriving DecidableEq, Repr

structure Execution where
  jobs : Int
  enableLinter : Bool
  /-- The analyzers to run; if there are none, all of them. -/
  analyzers : List String
deriving DecidableEq, Repr

structure Linter where
  executable : String
  configPath : Path
  /-- How many seconds the linter may run. -/
  timeout : Option Binary64
  extraArguments : List String
deriving DecidableEq, Repr

structure Output where
  directory : Path
  emoji : Bool
  color : Bool
  verbose : Bool
deriving DecidableEq, Repr

/-- Three quarters of the processors as a binary number, but at least one job; processors may be
unknown. There is no such number if they are too many. -/
def defaultJobs? (processors : Option Int) : Option Int :=
  let count := match processors with
    | none | some 0 => 1
    | some count => count
  (Binary64.ofInt? count).map fun count =>
    max 1 (((count.mul (.ofRat (3 / 4))).toRat?.getD 0).floor)

/-- Extensions without dots in front and in lower case; blank ones are dropped. -/
def normalized (extensions : List String) : List String :=
  (extensions.filter fun extension => !(Text.trim extension.toList).isEmpty).map fun extension =>
    String.ofList (Text.lower (extension.toList.dropWhile (· == '.')))

def Discovery.default : Discovery :=
  ⟨Discovery.Selection.defaultExcludes, Discovery.Selection.defaultExtensions⟩

def Execution.default (jobs : Int) : Execution := ⟨jobs, true, []⟩

def Linter.default : Linter := ⟨"detekt", Path.ofText "detekt-config.yml", none, []⟩

def Output.default : Output := ⟨Path.ofText ".codeqa", true, true, false⟩

/-! ### Reading -/

variable {α : Type}

private def plain (read : Json → Checked α) : Setting → Checked α
  | .plain value => read value
  | _ => .fault

private def texts : Setting → Checked (List String)
  | .array items =>
    .all (items.zipIdx.map fun (item, index) => (plain Record.text item).within (toString index))
  | _ => .fault

/-- A table that has no other fields than the named ones. -/
private def closedTable (names : List String) (read : Record.Fields Setting → Checked α) :
    Setting → Checked α
  | .table fields => Record.Fields.closed fields names (read fields)
  | _ => .fault

def Discovery.read : Setting → Checked Discovery :=
  closedTable ["excludes", "extensions"] fun fields =>
    Discovery.mk <$> fields.withDefault "excludes" Discovery.default.excludes texts
      <*> (normalized <$> fields.withDefault "extensions" Discovery.default.extensions texts)

private def positive (value : Int) : Checked Int := if 1 ≤ value then .valid value else .fault

private def jobCount : Setting → Checked Int
  | .plain value =>
    match Record.int value with
    | .valid value => positive value
    | .faulty faults => .faulty faults
  | _ => .fault

def Execution.read (jobs : Int) : Setting → Checked Execution :=
  closedTable ["jobs", "enable_linter", "analyzers"] fun fields =>
    Execution.mk <$> fields.withDefault "jobs" jobs jobCount
      <*> fields.withDefault "enable_linter" true (plain Record.bool)
      <*> fields.withDefault "analyzers" [] texts

def Linter.read : Setting → Checked Linter :=
  closedTable ["executable", "config_path", "timeout", "extra_args"] fun fields =>
    Linter.mk <$> fields.withDefault "executable" Linter.default.executable (plain Record.text)
      <*> fields.withDefault "config_path" Linter.default.configPath (plain Record.path)
      <*> fields.withDefault "timeout" none (plain (Record.nullable Record.float))
      <*> fields.withDefault "extra_args" [] texts

def Output.read : Setting → Checked Output :=
  closedTable ["output_dir", "emoji", "color", "verbose"] fun fields =>
    Output.mk <$> fields.withDefault "output_dir" Output.default.directory (plain Record.path)
      <*> fields.withDefault "emoji" true (plain Record.bool)
      <*> fields.withDefault "color" true (plain Record.bool)
      <*> fields.withDefault "verbose" false (plain Record.bool)

end Config

structure Config where
  root : Path
  discovery : Config.Discovery
  execution : Config.Execution
  linter : Config.Linter
  output : Config.Output
deriving DecidableEq, Repr

namespace Config

def leavesJobs (fields : Record.Fields Setting) : Bool :=
  match fields.lookup "execution" with
  | none => true
  | some (.table execution) => (execution.lookup "jobs").isNone
  | some _ => false

/-- The settings that some fields give; what they do not mention has its default. -/
def read (root : Path) (jobs : Int) (fields : Record.Fields Setting) : Checked Config :=
  fields.closed ["discovery", "execution", "linter", "output"]
    (Config.mk root <$> fields.withDefault "discovery" .default Discovery.read
      <*> fields.withDefault "execution" (.default jobs) (Execution.read jobs)
      <*> fields.withDefault "linter" .default Linter.read
      <*> fields.withDefault "output" .default Output.read)

def toJson (config : Config) : Json :=
  .object [("root", .text config.root.text),
    ("discovery", .object [("excludes", .texts config.discovery.excludes),
      ("extensions", .texts config.discovery.extensions)]),
    ("execution", .object [("jobs", .int config.execution.jobs),
      ("enable_linter", .bool config.execution.enableLinter),
      ("analyzers", .texts config.execution.analyzers)]),
    ("linter", .object [("executable", .text config.linter.executable),
      ("config_path", .text config.linter.configPath.text),
      ("timeout", .optional .float config.linter.timeout),
      ("extra_args", .texts config.linter.extraArguments)]),
    ("output", .object [("output_dir", .text config.output.directory.text),
      ("emoji", .bool config.output.emoji), ("color", .bool config.output.color),
      ("verbose", .bool config.output.verbose)])]

def outputDirectory (config : Config) : Path := config.root.join config.output.directory

def linterConfigPath (config : Config) : Path := config.root.join config.linter.configPath

def selection (config : Config) : KotlinAudit.Discovery.Selection :=
  .ofOptions config.discovery.excludes config.discovery.extensions

end Config
end KotlinAudit
