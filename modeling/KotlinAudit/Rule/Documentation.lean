import KotlinAudit.Analyzer
import KotlinAudit.Source.Declaration

/-! Public declarations without a documentation comment. -/
namespace KotlinAudit.Rule.Documentation

open Text (Line)

section Patterns
open Pattern

def modifiersGroup : Nat := 1
def kindGroup : Nat := 2
def nameGroup : Nat := 3

def declaration : Pattern :=
  all [start,
    capture modifiersGroup (many (all [texts ["public", "private", "internal", "protected",
      "override", "data", "sealed", "enum", "abstract", "open", "suspend", "inline", "operator",
      "value"], oneOrMore blank])),
    capture kindGroup (texts ["class", "interface", "object", "fun"]), oneOrMore blank,
    Source.typeParameters, Source.receiver, capture nameGroup word]

end Patterns

/-- Modifiers of declarations that need no comment of their own. -/
def hidingModifiers : List String := ["private", "internal", "protected", "override"]

def missingDocumentation (number : Nat) (snippet kind name : String) : Draft :=
  let noun := if kind == "fun" then "function" else kind
  { line := number
    rule := "missing-kdoc"
    title := s!"Missing Documentation: {name}"
    description := s!"The public {noun} '{name}' has no KDoc comment."
    priority := .low
    snippet := snippet
    recommendation := s!"Add a /** ... */ block describing what '{name}' does."
    before := some s!"{kind} {name}"
    after := some s!"/**\n * Describe {name}.\n */\n{kind} {name}"
    effort := .trivial
    references := ["https://kotlinlang.org/docs/kotlin-doc.html"] }

def lineDraft? (lines : List Line) (index : Nat) (line : Line) : Option Draft :=
  match declaration.matchStart? (Text.trim line) with
  | none => none
  | some found =>
    let modifiers := Text.words Text.isBlank (found.group modifiersGroup)
    if hidingModifiers.any fun word => modifiers.contains word.toList then none
    else if Source.hasDocumentation lines index then none
    else some (missingDocumentation (index + 1) (String.ofList (Text.trim line))
      (String.ofList (found.group kindGroup)) (String.ofList (found.group nameGroup)))

def rules (text : List Char) : List Draft :=
  let lines := Text.lines text
  lines.zipIdx.filterMap fun (line, index) => lineDraft? lines index line

def analyzer : Analyzer :=
  .ofRules "documentation" "Documentation Analyzer" .documentation outsideTests fun _ => rules

end KotlinAudit.Rule.Documentation
