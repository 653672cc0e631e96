import KotlinAudit.Analyzer
import KotlinAudit.Source.Declaration

/-! Layer boundaries: domain code without framework imports, use cases with one public function,
and view models that expose no mutable state. -/
namespace KotlinAudit.Rule.Architecture

open Text (Line)

private def guideReference : String :=
  "https://developer.android.com/topic/architecture#recommended-app-arch"

section Patterns
open Pattern

private def modifier (word : String) : Pattern := optional (all [Pattern.text word, oneOrMore blank])

def publicFunction : Pattern :=
  all [modifier "public", modifier "suspend", modifier "operator", text "fun", oneOrMore blank]

/-- A public property whose declaration mentions mutable state. -/
def mutableStateProperty : Pattern :=
  all [modifier "public", texts ["val", "var"], oneOrMore blank, word, many inLine,
    text "MutableStateFlow"]

end Patterns

private def importedName (line : Line) : Line :=
  let keyword := "import ".toList
  Text.trim (if keyword.isPrefixOf line then line.drop keyword.length else line)

def androidImport (number : Nat) (line : Line) : Option Draft :=
  if "import android.".toList.isPrefixOf line then
    let imported := String.ofList (importedName line)
    some {
      line := number
      rule := "android-import"
      title := "Android Framework Import in Domain Layer"
      description := s!"The domain layer imports '{imported}'. " ++
        "Domain code must stay independent of the Android framework."
      priority := .high
      snippet := String.ofList line
      recommendation := "Move framework-dependent logic into the data or UI layer and expose it " ++
        "to the domain through an interface."
      before := some ("import android.content.Context\n\n" ++
        "class GetMealsUseCase(private val context: Context)")
      after := some "interface MealSource\n\nclass GetMealsUseCase(private val source: MealSource)"
      effort := .medium
      references := [guideReference] }
  else none

def useCaseLine? (lines : List Line) : Option Nat :=
  lines.findIdx? fun line =>
    Text.contains "class ".toList line && Text.contains "UseCase".toList line

def publicFunctionCount (lines : List Line) (start : Nat) : Nat :=
  (Source.blockBody lines start).countP fun (_, line) =>
    publicFunction.matchesStart (Text.trim line)

def useCaseSurface (lines : List Line) : List Draft :=
  match useCaseLine? lines with
  | none => []
  | some index =>
    let count := publicFunctionCount lines index
    if count ≤ 1 then []
    else [{
      line := index + 1
      rule := "use-case-surface"
      title := "Use Case Exposes Multiple Public Functions"
      description := s!"Use case declares {count} public functions. " ++
        "A use case should expose a single operator function."
      priority := .medium
      snippet := String.ofList (Text.excerpt lines (index + 1) 10)
      recommendation := "Keep one `operator fun invoke` and make helpers private."
      references := [guideReference] }]

def exposedState (number : Nat) (line : Line) : Option Draft :=
  if mutableStateProperty.matchesStart line then
    some {
      line := number
      rule := "exposed-mutable-state"
      title := "MutableStateFlow Exposed from ViewModel"
      description :=
        "ViewModel exposes a MutableStateFlow, allowing the UI to mutate state directly."
      priority := .high
      snippet := String.ofList line
      recommendation := "Keep the MutableStateFlow private and expose it with `asStateFlow()`."
      before := some "val uiState = MutableStateFlow(UiState())"
      after := some ("private val _uiState = MutableStateFlow(UiState())\n" ++
        "val uiState: StateFlow<UiState> = _uiState.asStateFlow()")
      autoFixable := true
      effort := .trivial }
  else none

/-- Whether a file holds a use case, by its directory or its name. -/
def isUseCaseFile (file : SourceFile) : Bool :=
  Text.contains "/usecase/".toList ('/' :: file.relative.toList) || file.isNamed ["UseCase.kt"]

/-- A rule applied to every line without its surrounding white space. -/
def onLines (rule : Nat → Line → Option Draft) (lines : List Line) : List Draft :=
  lines.zipIdx.filterMap fun (line, index) => rule (index + 1) (Text.trim line)

def rules (file : SourceFile) (text : List Char) : List Draft :=
  let lines := Text.lines text
  match file.layer with
  | some .domain =>
    onLines androidImport lines ++ if isUseCaseFile file then useCaseSurface lines else []
  | some .ui =>
    if Text.contains "ViewModel".toList file.name.toList then onLines exposedState lines else []
  | _ => []

def analyzer : Analyzer :=
  .ofRules "architecture" "Architecture Analyzer" .architecture (·.layer.isSome) rules

end KotlinAudit.Rule.Architecture
