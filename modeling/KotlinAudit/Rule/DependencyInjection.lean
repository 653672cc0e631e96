import KotlinAudit.Analyzer
import KotlinAudit.Pattern.Search
import KotlinAudit.Source.Declaration
import KotlinAudit.Source.Reach

/-! View models and modules that the dependency injection framework cannot wire. -/
namespace KotlinAudit.Rule.DependencyInjection

open Text (Line)

private def hiltReference : String :=
  "https://developer.android.com/training/dependency-injection/hilt-android"

section Patterns
open Pattern

def classHeader : Pattern := all [wordEdge, text "class", oneOrMore blank, capture 1 word]

def viewModelSupertype : Pattern :=
  all [only ':', blanks, optional (text "Android"), text "ViewModel("]

def moduleDeclaration : Pattern :=
  all [start, blanks, either (text "object") (all [text "abstract", oneOrMore blank, text "class"]),
    oneOrMore blank, capture 1 (all [many wordChar, text "Module"]), wordEdge]

def injectConstructor : Pattern :=
  all [text "@Inject", oneOrMore blank, text "constructor", wordEdge]

end Patterns

/-- How many lines a class header may take. -/
def headerReach : Nat := 10

/-- Lines up to the first opening brace, which is left out. -/
def untilBrace : List Line → List Line
  | [] => []
  | line :: rest =>
    if line.contains '\x7b' then [line.takeWhile (· != '\x7b')] else line :: untilBrace rest

def headerText (lines : List Line) (index : Nat) : List Char :=
  Text.join ['\n'] (untilBrace ((lines.drop index).take headerReach))

def extendsViewModel (lines : List Line) (index : Nat) : Bool :=
  viewModelSupertype.occursIn (headerText lines index)

def missingHiltViewModel (number : Nat) (snippet name : String) : Draft where
  line := number
  rule := "hilt-view-model"
  title := "ViewModel Missing @HiltViewModel Annotation"
  description :=
    s!"'{name}' extends ViewModel but is not annotated, so hiltViewModel() cannot create it."
  priority := .high
  snippet := snippet
  recommendation := "Annotate the class with @HiltViewModel."
  before := some s!"class {name} @Inject constructor(...) : ViewModel()"
  after := some s!"@HiltViewModel\nclass {name} @Inject constructor(...) : ViewModel()"
  autoFixable := true
  effort := .trivial
  references := [hiltReference]

def missingInject (number : Nat) (snippet name : String) : Draft where
  line := number
  rule := "inject-constructor"
  title := "Constructor Missing @Inject Annotation"
  description := s!"'{name}' takes constructor dependencies that Hilt has no way to supply."
  priority := .high
  snippet := snippet
  recommendation := "Mark the primary constructor with @Inject."
  before := some s!"class {name}(private val repository: MealRepository) : ViewModel()"
  after := some (s!"class {name} @Inject constructor(private val repository: MealRepository) " ++
    ": ViewModel()")
  autoFixable := true
  effort := .trivial
  references := [hiltReference]

def moduleDraft (number : Nat) (snippet name rule marker : String) : Draft where
  line := number
  rule := rule
  title := s!"Hilt Module Missing {marker} Annotation"
  description := s!"Module '{name}' is not annotated with {marker}, so Hilt ignores its bindings."
  priority := .high
  snippet := snippet
  recommendation := s!"Annotate '{name}' with @Module and @InstallIn(SingletonComponent::class)."
  after := some s!"@Module\n@InstallIn(SingletonComponent::class)\nobject {name}"
  autoFixable := true
  effort := .trivial
  references :=
    ["https://developer.android.com/training/dependency-injection/hilt-android#hilt-modules"]

private def isAnnotated (lines : List Line) (index : Nat) (marker : String) : Bool :=
  (Source.annotationsAbove lines index).any marker.toList.isPrefixOf

/-- What is said about a view model whose name ends at `finish` on its line. -/
def viewModelDrafts (lines : List Line) (index : Nat) (line : Line) (name : String)
    (finish : Nat) : List Draft :=
  let snippet := String.ofList (Text.trim line)
  let header := headerText lines index
  let parameters := Source.parenthesized [header] 0 finish
  let declaresConstructor := !(Source.startsWith ":" (header.drop finish))
  (if isAnnotated lines index "@HiltViewModel" then []
    else [missingHiltViewModel (index + 1) snippet name]) ++
  if declaresConstructor && !(Text.trim parameters).isEmpty && !injectConstructor.occursIn header then
    [missingInject (index + 1) snippet name]
  else []

def moduleDrafts (lines : List Line) (index : Nat) (line : Line) (name : String) : List Draft :=
  let snippet := String.ofList (Text.trim line)
  (if isAnnotated lines index "@Module" then []
    else [moduleDraft (index + 1) snippet name "module-module" "@Module"]) ++
  if isAnnotated lines index "@InstallIn" then []
  else [moduleDraft (index + 1) snippet name "module-installin" "@InstallIn"]

def lineDrafts (lines : List Line) (index : Nat) (line : Line) : List Draft :=
  if Source.startsWith "//" line then []
  else
    (match classHeader.search? line with
      | some found =>
        if extendsViewModel lines index then
          viewModelDrafts lines index line (String.ofList (found.group 1)) found.finish.position
        else []
      | none => []) ++
    match moduleDeclaration.matchStart? line with
    | some found => moduleDrafts lines index line (String.ofList (found.group 1))
    | none => []

def rules (text : List Char) : List Draft :=
  let lines := Text.lines text
  lines.zipIdx.flatMap fun (line, index) => lineDrafts lines index line

def concerns (file : SourceFile) : Bool :=
  outsideTests file && file.isNamed ["ViewModel.kt", "Module.kt"]

def analyzer : Analyzer :=
  .ofRules "dependency-injection" "Dependency Injection Analyzer" .dependencyInjection concerns
    fun _ => rules

end KotlinAudit.Rule.DependencyInjection
