import KotlinAudit.Analyzer
import KotlinAudit.Pattern.Search
import KotlinAudit.Text.Lines

/-! View models whose state is assigned directly or whose coroutines have no scope. -/
namespace KotlinAudit.Rule.StateManagement

open Text (Line)

section Patterns
open Pattern

/-- An assignment to the value of a private property; the group holds its name. -/
def directMutation : Pattern :=
  all [wordEdge,
    capture 1 (all [only '_', char Text.isAsciiLetter, many wordChar]),
    text ".value", blanks, only '=', ahead false (only '=')]

def globalScope : Pattern :=
  all [wordEdge, text "GlobalScope.", capture 1 (texts ["launch", "async"]), wordEdge]

end Patterns

def mutationDraft (number : Nat) (line : Line) (name : String) : Draft where
  line := number
  rule := "direct-state-mutation"
  title := "Direct State Mutation Instead of update \x7b \x7d"
  description := s!"'{name}.value' is assigned directly. " ++
    "Concurrent read-modify-write cycles can lose updates."
  priority := .medium
  snippet := String.ofList line
  recommendation :=
    "Use `update \x7b \x7d` so the new state is computed atomically from the current one."
  before := some s!"{name}.value = {name}.value.copy(isLoading = true)"
  after := some s!"{name}.update \x7b it.copy(isLoading = true) \x7d"
  autoFixable := true
  effort := .trivial
  references := ["https://developer.android.com/kotlin/flow/stateflow-and-sharedflow"]

def scopeDraft (number : Nat) (line : Line) (builder : String) : Draft where
  line := number
  rule := "global-scope"
  title := "Coroutine Launch Not Using viewModelScope"
  description :=
    s!"GlobalScope.{builder} outlives the ViewModel and leaks work after the screen is closed."
  priority := .medium
  snippet := String.ofList line
  recommendation := s!"Replace GlobalScope with viewModelScope.{builder}."
  before := some s!"GlobalScope.{builder} \x7b loadMeals() \x7d"
  after := some s!"viewModelScope.{builder} \x7b loadMeals() \x7d"
  autoFixable := true
  effort := .trivial
  references := ["https://developer.android.com/topic/libraries/architecture/coroutines"]

def lineDrafts (number : Nat) (line : Line) : List Draft :=
  if ['/', '/'].isPrefixOf line then []
  else
    ((directMutation.search? line).toList.map fun found =>
      mutationDraft number line (String.ofList (found.group 1))) ++
    (globalScope.search? line).toList.map fun found =>
      scopeDraft number line (String.ofList (found.group 1))

def rules (text : List Char) : List Draft :=
  (Text.lines text).zipIdx.flatMap fun (line, index) => lineDrafts (index + 1) (Text.trim line)

def concerns (file : SourceFile) : Bool :=
  outsideTests file && Text.contains "ViewModel".toList file.name.toList

def analyzer : Analyzer :=
  .ofRules "state-management" "State Management Analyzer" .stateManagement concerns fun _ => rules

end KotlinAudit.Rule.StateManagement
