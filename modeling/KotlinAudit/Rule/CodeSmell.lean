import KotlinAudit.Analyzer
import KotlinAudit.Source.Complexity
import KotlinAudit.Source.Declaration

/-! Functions that are long, complex, deeply nested or take many parameters, and large classes. -/
namespace KotlinAudit.Rule.CodeSmell

open Source (Declaration)
open Text (Line)

def maxFunctionLines : Nat := 50
def maxClassLines : Nat := 300
def maxComplexity : Nat := 15
def maxNesting : Nat := 4
def maxParameters : Nat := 5

private def snippetOf (lines : List Line) (declaration : Declaration) (count : Nat) : String :=
  String.ofList (Text.excerpt lines declaration.number count)

def longFunction (lines : List Line) (function : Declaration) : Option Draft :=
  let name := function.name
  let count := function.lineCount
  if count ≤ maxFunctionLines then none
  else some {
    line := function.number
    rule := "long-function"
    title := s!"Long Function: {name}"
    description := s!"Function '{name}' has {count} lines, exceeding the " ++
      s!"recommended maximum of {maxFunctionLines}."
    priority := .medium
    snippet := snippetOf lines function 10
    recommendation :=
      "Extract logical blocks into smaller private functions with descriptive names."
    effort := .medium
    references := ["https://refactoring.guru/smells/long-method"] }

def manyParameters (lines : List Line) (function : Declaration) : Option Draft :=
  let name := function.name
  let count := Source.parameterCount (lines.drop function.first)
  if count ≤ maxParameters then none
  else some {
    line := function.number
    rule := "too-many-parameters"
    title := s!"Too Many Parameters: {name}"
    description := s!"Function '{name}' declares {count} parameters, exceeding the " ++
      s!"recommended maximum of {maxParameters}."
    priority := .low
    snippet := snippetOf lines function 10
    recommendation := "Group related parameters into a data class."
    references := ["https://refactoring.guru/smells/long-parameter-list"] }

def highComplexity (lines body : List Line) (function : Declaration) : Option Draft :=
  let name := function.name
  let count := Source.complexity body
  if count ≤ maxComplexity then none
  else some {
    line := function.number
    rule := "high-complexity"
    title := s!"High Cyclomatic Complexity: {name}"
    description := s!"Function '{name}' has a cyclomatic complexity of {count}, " ++
      s!"exceeding the recommended maximum of {maxComplexity}."
    priority := .medium
    snippet := snippetOf lines function 10
    recommendation :=
      "Replace nested conditionals with early returns or a `when` expression."
    effort := .medium
    references := ["https://en.wikipedia.org/wiki/Cyclomatic_complexity"] }

def deepNesting (lines body : List Line) (function : Declaration) : Option Draft :=
  let name := function.name
  let depth := Source.nesting body
  if depth ≤ maxNesting then none
  else some {
    line := function.number
    rule := "deep-nesting"
    title := s!"Deep Nesting: {name}"
    description := s!"Function '{name}' has a maximum nesting depth of {depth}, exceeding " ++
      s!"the recommended maximum of {maxNesting}."
    priority := .medium
    snippet := snippetOf lines function 10
    recommendation := "Use guard clauses to return early and flatten the control flow." }

def largeClass (lines : List Line) (type : Declaration) : Option Draft :=
  let name := type.name
  let count := type.lineCount
  if count ≤ maxClassLines then none
  else some {
    line := type.number
    rule := "large-class"
    title := s!"Large Class: {name}"
    description := s!"Class '{name}' has {count} lines, exceeding the recommended " ++
      s!"maximum of {maxClassLines}."
    priority := .medium
    snippet := snippetOf lines type 20
    recommendation := "Split the class along its responsibilities and inject the collaborators."
    effort := .large
    references := ["https://refactoring.guru/smells/large-class"] }

def functionDrafts (lines : List Line) (function : Declaration) : List Draft :=
  let body := (lines.take (function.last + 1)).drop function.first
  [longFunction lines function, manyParameters lines function, highComplexity lines body function,
    deepNesting lines body function].filterMap id

def rules (text : List Char) : List Draft :=
  let lines := Text.lines text
  (Source.declarations Source.functionHeader lines).flatMap (functionDrafts lines) ++
    (Source.declarations Source.classHeader lines).filterMap (largeClass lines)

def analyzer : Analyzer :=
  .ofRules "code-smell" "Code Smell Analyzer" .codeSmell outsideTests fun _ => rules

end KotlinAudit.Rule.CodeSmell
