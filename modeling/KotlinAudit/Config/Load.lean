import KotlinAudit.Config.Basic
import KotlinAudit.FileTree.Basic
import KotlinAudit.Keyed
import KotlinAudit.Toml.Document

/-! Finding the settings of a project: in a file that was asked for, in the project's own settings
file, or in a section of a file that it shares with other tools. -/
namespace KotlinAudit.Config

inductive LoadError
  /-- The file that was asked for is not there. -/
  | missing (path : Path)
  | unreadable (path : Path) (error : FileError)
  /-- A path could not be asked for. -/
  | place (error : FileError)
  /-- The file is not in the notation. -/
  | malformed (path : Path)
  | invalid (faults : List Record.Location)
  /-- The file is no text. -/
  | notText
  | tooManyDigits
  /-- What holds the section is no table. -/
  | noTable
  /-- The section is neither a table nor a list of pairs, or a name in it is no text. -/
  | noSection
  /-- An item of the section is no pair. -/
  | noPair
  /-- Values within each other lie too deep. -/
  | tooDeep
  /-- The count of processors has no three quarters. -/
  | tooManyProcessors
deriving DecidableEq, Repr

namespace LoadError

def message : LoadError → String
  | missing path => "Configuration file not found: " ++ path.text
  | unreadable path error =>
    "Unable to read configuration file " ++ path.text ++ ": " ++ error.message
  | place error => error.message
  | malformed path => "Invalid TOML in " ++ path.text ++ ": not in the notation"
  | invalid faults =>
    "Invalid codeqa configuration: " ++ ", ".intercalate (faults.map (".".intercalate ·))
  | notText => ReadError.message .notText
  | tooManyDigits => "Exceeds the limit of digits"
  | noTable => "A section stands in something that is no table"
  | noSection => "A section is no table"
  | noPair => "An item of a section is no pair"
  | tooDeep => "Values lie too deep within each other"
  | tooManyProcessors => "The processors are too many"

/-- Whether the settings themselves are to blame; other errors end the program. -/
def isReported : LoadError → Bool
  | missing _ | unreadable _ _ | malformed _ | invalid _ => true
  | _ => false

end LoadError

def fileName : String := "codeqa.toml"
def sharedFileName : String := "pyproject.toml"

def readFile (tree : FileTree) (path : Path) : Except LoadError Toml.Table :=
  match tree.content path with
  | .error error => .error (.unreadable path error)
  | .ok (.binary _) => .error .notText
  | .ok (.text text) =>
    match Toml.read text.toList with
    | .ok table => .ok table
    | .error .malformed => .error (.malformed path)
    | .error .tooManyDigits => .error .tooManyDigits
    | .error .tooDeep => .error .tooDeep

def partsOf : Setting → Except LoadError (List Setting)
  | .array items => .ok items
  | .table fields => .ok (fields.map fun (name, _) => .plain (.text name))
  | .plain (.text value) => .ok (value.toList.map fun c => .plain (.text c.toString))
  | _ => .error .noSection

/-- The name and the value of an item. Names that are no texts are refused only after all items have
turned out to be pairs, unless they have parts. -/
def pairOf (item : Setting) : Except LoadError (Option String × Setting) := do
  match ← partsOf item with
  | [.array _, _] | [.table _, _] => throw .noSection
  | [.plain (.text name), value] => return (some name, value)
  | [_, value] => return (none, value)
  | _ => throw .noPair

/-- The fields that a section stands for: those of a table or of a list of pairs. -/
def fieldsOf : Setting → Except LoadError Toml.Table
  | .table fields => .ok fields
  | value => do
    let items ← match value with
      | .array items => .ok items
      | .plain (.text value) => .ok (value.toList.map fun c => .plain (.text c.toString))
      | _ => .error .noSection
    let pairs ← items.mapM pairOf
    let named ← pairs.mapM fun (name, value) =>
      match name with
      | some name => .ok (name, value)
      | none => .error .noSection
    return Keyed.ofList named

/-- The section of a shared settings file that is about this program. -/
def sectionOf (table : Toml.Table) : Except LoadError Setting :=
  match table.lookup "tool" with
  | none => .ok (.table [])
  | some (.table tools) => .ok ((tools.lookup "codeqa").getD (.table []))
  | some _ => .error .noTable

def isFile (tree : FileTree) (path : Path) : Except LoadError Bool :=
  match tree.hasFile path with
  | .ok found => .ok found
  | .error error => .error (.place error)

def locate (tree : FileTree) (root : Path) (asked : Option Path) : Except LoadError Setting := do
  match asked with
  | some path =>
    if !(← isFile tree path) then throw (.missing path)
    let table ← readFile tree path
    if path.name = sharedFileName then sectionOf table else return .table table
  | none =>
    let own := root.child fileName
    let shared := root.child sharedFileName
    if ← isFile tree own then return .table (← readFile tree own)
    else if ← isFile tree shared then sectionOf (← readFile tree shared)
    else return .table []

/-- The settings of a project. A root in them is ignored. -/
def load (tree : FileTree) (root : Path) (processors : Option Int) (asked : Option Path) :
    Except LoadError Config := do
  let fields := (← fieldsOf (← locate tree root asked)).filter (·.1 != "root")
  let jobs := defaultJobs? processors
  if jobs.isNone && leavesJobs fields then throw .tooManyProcessors
  match (Config.read root (jobs.getD 1) fields).toExcept with
  | .ok config => return config
  | .error faults => throw (.invalid faults)

end KotlinAudit.Config
