import KotlinAudit.Analyzer
import KotlinAudit.Pattern.Search
import KotlinAudit.Source.Reach

/-! Exception handlers that hide failures or catch too much. -/
namespace KotlinAudit.Rule.ErrorHandling

open Text (Line)

section Patterns
open Pattern

/-- A catch clause; the group holds the caught type. -/
def catchClause : Pattern :=
  all [text "catch", blanks, only '(', blanks, word, blanks, only ':', blanks,
    capture 1 (oneOrMore (char fun c => Text.isWord c || c == '.')), blanks, only ')']

def loggingCall : Pattern :=
  all [start, oneOf [all [text "Log.", among "vdiwe", only '('],
    all [text "Timber.", word, only '('], text "println(", text "print(",
    all [word, text ".printStackTrace()"], all [text "logger.", word, only '(']]]

end Patterns

def genericTypes : List String :=
  ["Exception", "Throwable", "java.lang.Exception", "java.lang.Throwable", "kotlin.Exception",
    "kotlin.Throwable"]

def swallowed (number : Nat) (snippet : String) (logs : Bool) : Draft where
  line := number
  rule := "swallowed-exception"
  title := "Empty or Logging-Only Catch Block"
  description :=
    let detail := if logs then "only logs the exception" else "is empty"
    s!"The catch block {detail}, hiding the failure from callers."
  priority := .medium
  snippet := snippet
  recommendation := "Map the exception to a domain error and propagate it, for example with " ++
    "Result.failure()."
  before := some ("try \x7b\n    repository.save(meal)\n\x7d catch (e: IOException) \x7b\n" ++
    "    Log.e(TAG, \"save failed\", e)\n\x7d")
  after := some ("try \x7b\n    repository.save(meal)\n    Result.success(Unit)\n" ++
    "\x7d catch (e: IOException) \x7b\n    Result.failure(AppError.Storage(e))\n\x7d")

def genericCatch (number : Nat) (snippet caught : String) : Draft where
  line := number
  rule := "generic-catch"
  title := "Generic Exception Catch"
  description :=
    s!"Catching '{caught}' also traps unexpected programming errors and cancellation."
  priority := .low
  snippet := snippet
  recommendation := "Catch the specific exception types the protected call can throw."
  references := ["https://kotlinlang.org/docs/exceptions.html"]

def onlyLogs (statements : List Line) : Bool := statements.all loggingCall.matchesStart

def lineDrafts (lines : List Line) (index : Nat) (line : Line) : List Draft :=
  match catchClause.search? line with
  | none => []
  | some found =>
    let snippet := String.ofList (Text.excerpt lines (index + 1) 5)
    let statements := Source.catchStatements lines index found.start.position
    let caught := String.ofList (found.group 1)
    (if onlyLogs statements then [swallowed (index + 1) snippet !statements.isEmpty] else []) ++
      if genericTypes.contains caught then [genericCatch (index + 1) snippet caught] else []

def rules (text : List Char) : List Draft :=
  let lines := Text.lines text
  lines.zipIdx.flatMap fun (line, index) => lineDrafts lines index line

def analyzer : Analyzer :=
  .ofRules "error-handling" "Error Handling Analyzer" .errorHandling outsideTests fun _ => rules

end KotlinAudit.Rule.ErrorHandling
