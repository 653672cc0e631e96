import KotlinAudit.Baseline.Compare
import KotlinAudit.Json.Reader
import KotlinAudit.Json.Writer
import KotlinAudit.Result
import KotlinAudit.Text.Lines
import KotlinAudit.Workspace

/-! Baselines and the history of runs in files. The baseline is one document that every full run
replaces; the history grows by one line with each run. -/
namespace KotlinAudit

inductive PersistError
  | baseline (path : Path) (error : FileError)
  | history (path : Path) (error : FileError)
  | report (path : Path) (error : FileError)
deriving DecidableEq, Repr

def PersistError.cause : PersistError → FileError
  | baseline _ error | history _ error | report _ error => error

def PersistError.message : PersistError → String
  | baseline path error => "Unable to write " ++ path.text ++ ": " ++ error.message
  | history path error => "Unable to append to history " ++ path.text ++ ": " ++ error.message
  | report path error => "Unable to write report " ++ path.text ++ ": " ++ error.message

inductive BaselineFault
  /-- Its path could not be asked for. -/
  | place (error : FileError)
  | refused (error : FileError)
  | notText
  /-- How many faults the document has; a text that is not in the notation has one. -/
  | invalid (count : Nat)
deriving DecidableEq, Repr

def BaselineFault.message (path : Path) : BaselineFault → String
  | place error => error.message
  | refused error => "Failed to load baseline " ++ path.text ++ ": " ++ error.message
  | notText => "Baseline " ++ path.text ++ " is not valid UTF-8: " ++ ReadError.message .notText
  | invalid count =>
    "Failed to parse baseline " ++ path.text ++ ": " ++ toString count ++ " error(s)"

def Baseline.ofText (text : List Char) : Except BaselineFault Baseline :=
  match Json.read .record text with
  | .error _ => .error (.invalid 1)
  | .ok json =>
    match Baseline.readStored json with
    | .valid baseline => .ok baseline
    | .faulty faults => .error (.invalid faults.length)

def Baseline.document (baseline : Baseline) : String := String.ofList (baseline.toJson.indented 0)

def HistoryEntry.ofLine? (line : Text.Line) : Option HistoryEntry :=
  (Json.read .record line).toOption.bind fun json => (HistoryEntry.readStored json).value?

/-- The line of an entry, with its line break. -/
def HistoryEntry.line (entry : HistoryEntry) : String :=
  String.ofList (entry.toJson.compact ++ ['\n'])

/-- A line of the history: an entry or, by its number, a line that holds none. -/
inductive HistoryLine
  | kept (entry : HistoryEntry)
  | malformed (number : Nat)

def HistoryLine.entry? : HistoryLine → Option HistoryEntry
  | kept entry => some entry
  | malformed _ => none

/-- The lines of a history, oldest first and without blank ones. -/
def HistoryLine.ofText (text : List Char) : List HistoryLine :=
  (Text.numberedLines text).filterMap fun (number, line) =>
    if (Text.trim line).isEmpty then none
    else match HistoryEntry.ofLine? line with
      | some entry => some (kept entry)
      | none => some (malformed number)

structure Store where
  directory : Path
deriving DecidableEq, Repr

namespace Store

def baselinePath (store : Store) : Path := store.directory.child "baseline.json"
def historyPath (store : Store) : Path := store.directory.child "history.jsonl"

def readBaseline (store : Store) (tree : FileTree) : Except BaselineFault (Option Baseline) :=
  match tree.hasFile store.baselinePath with
  | .error error => .error (.place error)
  | .ok false => .ok none
  | .ok true =>
    match tree.readText store.baselinePath with
    | .error (.refused error) => .error (.refused error)
    | .error .notText => .error .notText
    | .ok text => (Baseline.ofText text.toList).map some

/-- The history in a tree, oldest first. -/
def readHistory (store : Store) (tree : FileTree) :
    Except FileError (Except ReadError (List HistoryLine)) :=
  (tree.hasFile store.historyPath).map fun found =>
    if found then
      (tree.readText store.historyPath).map fun text => HistoryLine.ofText text.toList
    else .ok []

/-- The stored baseline; one that cannot be used counts as none, unless its path cannot even be
asked for. -/
def loadBaseline (store : Store) : Action (Except FileError (Option Baseline)) := do
  match store.readBaseline (← get).tree with
  | .ok baseline => return .ok baseline
  | .error (.place error) => return .error error
  | .error fault =>
    Workspace.say (.warn (fault.message store.baselinePath))
    return .ok none

def malformedNotice? (store : Store) : HistoryLine → Option Notice
  | .kept _ => none
  | .malformed number =>
    some (.warn ("Skipping malformed history line " ++ toString number ++ " in " ++
      store.historyPath.text))

/-- The entries of the history, newest first. -/
def loadHistory (store : Store) : Action (Except FileError (List HistoryEntry)) := do
  match store.readHistory (← get).tree with
  | .error error => return .error error
  | .ok (.ok lines) =>
    Workspace.sayAll (lines.filterMap store.malformedNotice?)
    return .ok (lines.filterMap HistoryLine.entry?).reverse
  | .ok (.error error) =>
    Workspace.say (.warn ("Failed to load history " ++ store.historyPath.text ++ ": " ++
      error.message))
    return .ok []

def saveBaseline (store : Store) (metrics : Metrics) (findings : List Finding) :
    Action (Except PersistError Baseline) := do
  let baseline := Baseline.ofFindings (← Workspace.stamp) metrics findings
  match ← Workspace.writeText store.baselinePath baseline.document with
  | .error error => return .error (.baseline store.baselinePath error)
  | .ok () =>
    Workspace.say (.ok ("Baseline saved to " ++ store.baselinePath.text))
    return .ok baseline

def entryOf (timestamp : Int) (metrics : Metrics) (findings : List Finding)
    (baseline : Option Baseline) : Except ChangeError HistoryEntry := do
  let ids := findings.map (·.id)
  let comparison ← baseline.mapM fun baseline => baseline.compare metrics (some ids)
  return ⟨timestamp, metrics, ids.length, ids, comparison⟩

inductive RecordError
  | change (error : ChangeError)
  | persist (error : PersistError)
deriving DecidableEq, Repr

/-- Adds an entry for some findings and their metrics at the end of the history. -/
def record (store : Store) (metrics : Metrics) (findings : List Finding)
    (baseline : Option Baseline) : Action (Except RecordError HistoryEntry) := do
  match entryOf (← Workspace.stamp) metrics findings baseline with
  | .error error => return .error (.change error)
  | .ok entry =>
    match ← Workspace.appendText store.historyPath entry.line with
    | .error error => return .error (.persist (.history store.historyPath error))
    | .ok () =>
      Workspace.say (.debug ("history entry appended to " ++ store.historyPath.text))
      return .ok entry

def clear (path : Path) : Action (Except FileError Bool) := do
  match (← get).tree.has path with
  | .error error => return .error error
  | .ok false => return .ok false
  | .ok true =>
    return (← Workspace.change fun workspace => workspace.tree.deleteFile path).map fun _ => true

def clearBaseline (store : Store) : Action (Except FileError Bool) := clear store.baselinePath
def clearHistory (store : Store) : Action (Except FileError Bool) := clear store.historyPath

end Store
end KotlinAudit
