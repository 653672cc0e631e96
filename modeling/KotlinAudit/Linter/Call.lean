import KotlinAudit.Json.Reader
import KotlinAudit.Linter.Report
import KotlinAudit.Text.Quoted
import KotlinAudit.Workspace

/-! Calling the external linter: the command that is run, what may go wrong with it, and the issues
in the report that it leaves. -/
namespace KotlinAudit.Linter

open Decimal (Binary64)

structure Answer where
  exitCode : Int
  errors : String
  /-- The content of the report file, none when the file is gone. -/
  report : Option Content

inductive RunFault
  /-- Whoever runs the command has said why, in the linter's own terms. -/
  | stated (message : String)
  /-- There is no such program. -/
  | missing (message : String)
  /-- The system does not run the program. -/
  | refused (message : String)
  /-- A fault of any other kind. -/
  | broken (kind message : String)
deriving DecidableEq, Repr

abbrev Runner := FileTree → Command → Except RunFault Answer

inductive Fault
  | noConfig (path : Path)
  /-- A path could not be asked for. -/
  | place (error : FileError)
  | run (executable : String) (fault : RunFault)
  /-- The exit code says that the linter has failed. -/
  | exit (code : Int) (errors : String)
  /-- The linter has deleted its report. -/
  | noReport
  /-- The octets of the report are no text. -/
  | notText
  /-- The text of the report cannot be read. -/
  | unreadable (fault : Json.Fault)
  | report (fault : ReportFault)
deriving DecidableEq, Repr

/-- How a fault outside the linter's own ones is shown: its kind and its message. -/
def broken (kind message : String) : String :=
  "Unexpected detekt failure: " ++ kind ++ "(" ++ String.ofList (Text.quoted message.toList) ++ ")"

def ReportFault.message : ReportFault → String
  | .noFields => "a value has no fields"
  | .wrongKind => "a value is of the wrong kind"
  | .noFirst => "locations have no first one"
  | .notInteger => "a value is no integer"
  | .infinite => "cannot convert float infinity to integer"
  | .location .malformedHost => "Invalid IPv6 URL"
  | .location (.circular error) => error.message
  | .invalid faults => ", ".intercalate (faults.map (".".intercalate ·))

def reportPath : Path := Path.ofText "/tmp/report.sarif"

/-- What the linter has said goes without blanks around it, and an empty statement goes without the
colon in front. -/
def exitMessage (code : Int) (errors : String) : String :=
  let statement := ("detekt exited with code " ++ toString code ++ ": ").toList ++
    Text.trim errors.toList
  String.ofList (Text.trimRight (fun c => c == ':' || c == ' ') statement)

def Fault.message : Fault → String
  | noConfig path => "Detekt config file not found: " ++ path.text
  | place error => error.parts
  | run _ (.stated message) => message
  | run executable (.missing message) =>
    "Detekt executable '" ++ executable ++ "' not found: " ++ message
  | run _ (.refused message) => "Unable to run detekt: " ++ message
  | run _ (.broken kind message) => broken kind message
  | exit code errors => exitMessage code errors
  | noReport => "Unable to read detekt report: " ++ FileError.message ⟨.missing, reportPath⟩
  | notText => broken "UnicodeDecodeError" (ReadError.message .notText)
  | unreadable .malformed => "Malformed detekt SARIF report: " ++ Json.Fault.message .malformed
  | unreadable fault@(.tooManyDigits _) => broken "ValueError" fault.message
  | unreadable fault@(.tooDeep _) => broken "RecursionError" fault.message
  | report (.location (.circular error)) => broken "RuntimeError" error.message
  | report .infinite => broken "OverflowError" (ReportFault.message .infinite)
  | report fault => "Unexpected detekt SARIF structure: " ++ fault.message

/-- The exit codes of a linter that has done its work; the second one means that it has found
something. -/
def successCodes : List Int := [0, 2]

def Answer.issues (answer : Answer) (resolve : Path → Except FileError Path) (root : Path) :
    Except Fault (List Issue) :=
  if !successCodes.contains answer.exitCode then .error (.exit answer.exitCode answer.errors)
  else match answer.report with
    | none => .error .noReport
    | some (.binary _) => .error .notText
    | some (.text text) =>
      if (Text.trim text.toList).isEmpty then .ok []
      else match Json.read .document text.toList with
        | .error fault => .error (.unreadable fault)
        | .ok json =>
          match Report.issues resolve root json with
          | .ok issues => .ok issues
          | .error fault => .error (.report fault)

structure Setup where
  /-- The root of the project without links. -/
  root : Path
  executable : String
  /-- How many seconds the linter may take. -/
  limit : Option Binary64
  extraArguments : List String
  excludes : List String
deriving DecidableEq, Repr

namespace Setup

def command (setup : Setup) (paths : List Path) (config : Path) : Command where
  words := [setup.executable, "--input", ",".intercalate (paths.map Path.text), "--config",
      config.text, "--base-path", setup.root.text, "--report", "sarif:" ++ reportPath.text] ++
    (if setup.excludes.isEmpty then [] else ["--excludes", ",".intercalate setup.excludes]) ++
    setup.extraArguments
  directory := setup.root
  limit := setup.limit

/-- The paths that are there; the others are only mentioned. -/
def presentPaths (tree : FileTree) : List Path → List Notice × Except FileError (List Path)
  | [] => ([], .ok [])
  | path :: rest =>
    match tree.has path, presentPaths tree rest with
    | .error error, _ => ([], .error error)
    | .ok true, (notices, present) => (notices, present.map (path :: ·))
    | .ok false, (notices, present) => (.warn ("Path not found: " ++ path.text) :: notices, present)

/-- Looks at some paths with the rules of a configuration; both may be given relative to the root. -/
def run (setup : Setup) (runner : Runner) (paths : List Path) (config : Path) :
    Action (Except Fault (List Issue)) := do
  let tree := (← get).tree
  let config := setup.root.join config
  match tree.hasFile config with
  | .error error => return .error (.place error)
  | .ok false => return .error (.noConfig config)
  | .ok true =>
  let (notices, outcome) := presentPaths tree (paths.map setup.root.join)
  Workspace.sayAll notices
  match outcome with
  | .error error => return .error (.place error)
  | .ok present =>
  if present.isEmpty then return .ok []
  Workspace.say (.info ("Running detekt on " ++ toString present.length ++ " path(s)..."))
  let command := setup.command present config
  Workspace.call command
  match runner tree command with
  | .error fault => return .error (.run setup.executable fault)
  | .ok answer =>
    match answer.issues tree.resolve setup.root with
    | .error fault => return .error fault
    | .ok issues =>
      Workspace.say (.debug ("detekt reported " ++ toString issues.length ++ " issue(s)"))
      return .ok issues

end Setup
end KotlinAudit.Linter
