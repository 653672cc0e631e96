import KotlinAudit.Analyzer
import KotlinAudit.Source.Declaration
import KotlinAudit.Source.Reach

/-! Data access objects that block, queries that are put together from text, and foreign keys
without a rule for deletion. -/
namespace KotlinAudit.Rule.Database

open Source (startsWith)
open Text (Line)

private def roomReference : String :=
  "https://developer.android.com/training/data-storage/room/accessing-data"

section Patterns
open Pattern

def suspendGroup : Nat := 1
def nameGroup : Nat := 2

/-- A function of a data access object up to its opening parenthesis. -/
def daoFunction : Pattern :=
  all [start, blanks, optional (all [text "override", oneOrMore blank]),
    optional (capture suspendGroup (all [text "suspend", oneOrMore blank])), text "fun",
    oneOrMore blank, capture nameGroup word, blanks, only '(']

def returnType : Pattern :=
  all [only ')', blanks, only ':', blanks,
    capture 1 (oneOrMore (char fun c => Text.isWord c || "<>?,. ".toList.contains c))]

/-- A quoted text next to a plus sign, or a placeholder inside one. -/
def concatenation : Pattern :=
  oneOf [all [among "\"'", blanks, only '+'], all [only '+', blanks, among "\"'"], text "$\x7b",
    all [only '$', wordChar]]

def bindParameter : Pattern := either (all [only ':', word]) (only '?')

def foreignKey : Pattern := all [wordEdge, text "ForeignKey", blanks, only '(']

def cascade : Pattern :=
  all [wordEdge, text "onDelete", blanks, only '=', blanks, text "ForeignKey.CASCADE", wordEdge]

end Patterns

/-- How many lines below an annotation its function may start. -/
def functionReach : Nat := 8

structure DaoFunction where
  index : Int
  header : Cursor

namespace DaoFunction

def name (function : DaoFunction) : String := String.ofList (function.header.group nameGroup)

def isSuspend (function : DaoFunction) : Bool := (function.header.group? suspendGroup).isSome

end DaoFunction

/-- The first function within reach below a line; none when the line after it does not exist. -/
def nextFunction? (lines : List Line) (start : Int) : Option (Option DaoFunction) :=
  (Source.reach? lines (start + 1)).map fun reachable =>
    (reachable.take functionReach).findSome? fun (index, line) =>
      (daoFunction.matchStart? line).map fun header => ⟨index, header⟩

def nextFunction (lines : List Line) (start : Nat) : Option DaoFunction :=
  (nextFunction? lines start).join

def queryFlow (number : Nat) (snippet name : String) : Draft where
  line := number
  rule := "query-flow"
  title := "DAO Query Function Should Return Flow"
  description :=
    s!"Query '{name}' is neither suspend nor observable, so it blocks the calling thread."
  priority := .high
  snippet := snippet
  recommendation := "Return Flow<T> for observed data or mark one-shot reads as suspend."
  before := some "fun getAll(): List<MealEntity>"
  after := some "fun getAll(): Flow<List<MealEntity>>"
  references := [roomReference]

def mutationSuspend (number : Nat) (snippet name : String) : Draft where
  line := number
  rule := "mutation-suspend"
  title := "DAO Mutation Function Should Be Suspend"
  description := s!"Write operation '{name}' is not suspend and blocks the calling thread."
  priority := .high
  snippet := snippet
  recommendation := "Mark the function suspend and call it from a coroutine."
  before := some "fun insert(meal: MealEntity)"
  after := some "suspend fun insert(meal: MealEntity)"
  autoFixable := true
  effort := .trivial
  references := [roomReference]

def queryConcatenation (number : Nat) (snippet : String) : Draft where
  line := number
  rule := "query-concatenation"
  title := "SQL Injection Risk: String Concatenation in Query"
  description := "The query text is assembled by concatenation or string templates."
  priority := .critical
  snippet := snippet
  recommendation := "Use bind parameters (`:name`) and pass values as function arguments."
  before := some "@Query(\"SELECT * FROM meals WHERE name = '\" + NAME + \"'\")"
  after := some "@Query(\"SELECT * FROM meals WHERE name = :name\")"
  references := ["https://owasp.org/www-community/attacks/SQL_Injection"]

def queryParameters (number : Nat) (snippet name : String) : Draft where
  line := number
  rule := "query-parameters"
  title := "Query Should Use Parameterized Queries"
  description := s!"'{name}' takes arguments but its query binds none of them."
  priority := .high
  snippet := snippet
  recommendation := "Reference each argument with a `:name` bind parameter."
  references := [roomReference]

def foreignKeyCascade (number : Nat) (snippet : String) : Draft where
  line := number
  rule := "foreign-key-cascade"
  title := "Foreign Key Should Use CASCADE for onDelete"
  description := "Deleting the parent row leaves child rows pointing at a missing key."
  priority := .medium
  snippet := snippet
  recommendation := "Declare `onDelete = ForeignKey.CASCADE` on the foreign key."
  after := some ("ForeignKey(entity = MealEntity::class, parentColumns = [\"id\"], " ++
    "childColumns = [\"mealId\"], onDelete = ForeignKey.CASCADE)")
  effort := .trivial
  references := ["https://developer.android.com/reference/androidx/room/ForeignKey"]

private def lineAt (lines : List Line) (index : Nat) : Line := lines[index]?.getD []

private def snippetOf (line : Line) : String := String.ofList (Text.trim line)

def returnsFlow (line : Line) : Bool :=
  match returnType.search? line with
  | none => false
  | some found => startsWith "Flow<" (found.group 1)

def daoDraft? (lines : List Line) (isQuery : Bool) (function : DaoFunction) : Option Draft :=
  let index := function.index.toNat
  let line := lineAt lines index
  if function.isSuspend then none
  else if !isQuery then some (mutationSuspend (index + 1) (snippetOf line) function.name)
  else if returnsFlow line then none
  else some (queryFlow (index + 1) (snippetOf line) function.name)

/-- The first line from an index on that declares a class or an interface. -/
def typeLine? (lines : List Line) (index : Nat) : Option Nat :=
  ((lines.drop index).findIdx? fun line =>
    Text.contains "interface ".toList line || Text.contains "class ".toList line).map (index + ·)

def mutations : List String := ["@Insert", "@Update", "@Delete", "@Upsert"]

def daoDrafts (lines : List Line) (index : Nat) : List Draft :=
  match typeLine? lines index with
  | none => []
  | some start =>
    (Source.blockBody lines start).filterMap fun (index, line) =>
      let isQuery := startsWith "@Query" line
      if isQuery || mutations.any (startsWith · line) then
        (nextFunction lines index).bind (daoDraft? lines isQuery)
      else none

def queryDrafts (lines : List Line) (index : Nat) (line : Line) : List Draft :=
  let column := (Text.find? "@Query".toList line).getD 0
  let query := Source.parenthesized lines index column
  if concatenation.occursIn query then [queryConcatenation (index + 1) (snippetOf line)]
  else match nextFunction lines index with
    | none => []
    | some function =>
      let arguments :=
        Source.parenthesized lines function.index.toNat (function.header.position - 1)
      if !(Text.trim arguments).isEmpty && !bindParameter.occursIn query then
        [queryParameters (index + 1) (snippetOf line) function.name]
      else []

def lineDrafts (lines : List Line) (index : Nat) (line : Line) : List Draft :=
  if startsWith "//" line then []
  else
    (if startsWith "@Dao" line then daoDrafts lines index else []) ++
    (if startsWith "@Query" line then queryDrafts lines index line else []) ++
    match foreignKey.search? line with
    | none => []
    | some found =>
      if cascade.occursIn (Source.parenthesized lines index found.start.position) then []
      else [foreignKeyCascade (index + 1) (snippetOf line)]

def rules (text : List Char) : List Draft :=
  let lines := Text.lines text
  lines.zipIdx.flatMap fun (line, index) => lineDrafts lines index line

def concerns (file : SourceFile) : Bool :=
  file.layer == some .data && file.isNamed ["Dao.kt", "Entity.kt"]

def analyzer : Analyzer :=
  .ofRules "database" "Database Analyzer" .database concerns fun _ => rules

end KotlinAudit.Rule.Database
