import KotlinAudit.Analyzer
import KotlinAudit.Source.Declaration
import KotlinAudit.Source.Reach

/-! Composable functions that are hard to reuse or slow to recompose. -/
namespace KotlinAudit.Rule.Compose

open Source (nameGroup)
open Text (Line)

private def practicesReference : String :=
  "https://developer.android.com/develop/ui/compose/performance/bestpractices"

private def modifierReference : String :=
  "https://developer.android.com/develop/ui/compose/modifiers"

section Patterns
open Pattern

def privateFunction : Pattern :=
  all [wordEdge, text "private", oneOrMore blank, many (all [word, oneOrMore blank]), text "fun",
    wordEdge]

/-- A parameter of the modifier type; the group holds the equals sign of its default. -/
def modifierParameter : Pattern :=
  all [wordEdge, word, blanks, only ':', blanks, text "Modifier", wordEdge,
    optional (capture 1 (all [blanks, only '=']))]

def lazyList : Pattern :=
  all [wordEdge, text "Lazy", texts ["Column", "Row"], blanks, among "(\x7b"]

def itemsCall : Pattern :=
  all [wordEdge, text "items", optional (text "Indexed"), blanks, only '(']

def keyArgument : Pattern := all [wordEdge, text "key", blanks, only '=']

def expensiveValue : Pattern :=
  all [start, blanks, text "val", oneOrMore blank, word, blanks, only '=', many inLine, only '.',
    texts ["filter", "map", "flatMap", "sorted", "sortedBy", "groupBy", "partition", "associate",
      "distinct"],
    many wordChar, blanks, among "(\x7b"]

def remembered : Pattern := all [wordEdge, texts ["remember", "derivedStateOf"], wordEdge]

end Patterns

/-- How many lines below an annotation the function may start. -/
def annotationReach : Nat := 3

/-- A composable function by the index of its line and the header found there. -/
structure Composable where
  index : Nat
  header : Cursor

namespace Composable

def name (composable : Composable) : String := String.ofList (composable.header.group nameGroup)

end Composable

/-- The function that an annotation at `index` belongs to: the first one from there on within reach. -/
def annotated? (lines : List Line) (index : Nat) : Option Composable :=
  (((lines.zipIdx.drop index).take (annotationReach + 1))).findSome? fun (line, candidate) =>
    (Source.functionHeader.matchStart? line).map fun header => ⟨candidate, header⟩

/-- The composable functions in the order of their annotations, each one once. -/
def composables (lines : List Line) : List Composable :=
  let annotations := lines.zipIdx.filterMap fun (line, index) =>
    if Text.contains "@Composable".toList line then some index else none
  (annotations.filterMap (annotated? lines)).foldl
    (fun found composable =>
      if found.any (·.index == composable.index) then found else found ++ [composable]) []

def missingModifier (number : Nat) (snippet name : String) : Draft where
  line := number
  rule := "missing-modifier"
  title := "Composable Missing Modifier Parameter"
  description :=
    s!"Composable '{name}' does not accept a Modifier, so callers cannot size or position it."
  priority := .medium
  snippet := snippet
  recommendation := "Add `modifier: Modifier = Modifier` and apply it to the root layout."
  before := some s!"fun {name}(meal: Meal) \x7b Card \x7b \x7d \x7d"
  after := some (s!"fun {name}(meal: Meal, modifier: Modifier = Modifier) " ++
    "\x7b Card(modifier) \x7b \x7d \x7d")
  effort := .trivial
  references := [modifierReference]

def modifierDefault (number : Nat) (snippet name : String) : Draft where
  line := number
  rule := "modifier-default"
  title := "Modifier Parameter Missing Default Value"
  description :=
    s!"The Modifier parameter of '{name}' has no default, forcing every caller to pass one."
  priority := .low
  snippet := snippet
  recommendation := "Default the parameter to `Modifier`."
  before := some "modifier: Modifier"
  after := some "modifier: Modifier = Modifier"
  autoFixable := true
  effort := .trivial
  references := [modifierReference]

def nestedLazyList (number : Nat) (snippet : String) : Draft where
  line := number
  rule := "nested-lazy-list"
  title := "Nested LazyColumn Detected"
  description := "A lazy list is nested inside another lazy list scrolling the same way."
  priority := .high
  snippet := snippet
  recommendation := "Flatten the content into a single lazy list using several item blocks."
  effort := .medium
  references := ["https://developer.android.com/develop/ui/compose/lists"]

def missingKey (number : Nat) (snippet : String) : Draft where
  line := number
  rule := "items-key"
  title := "LazyColumn items() Missing key Parameter"
  description :=
    "items() is called without a key, so reordering recomposes and loses item state."
  priority := .medium
  snippet := snippet
  recommendation := "Pass a stable key such as the entity id."
  before := some "items(meals) \x7b meal -> MealRow(meal) \x7d"
  after := some "items(meals, key = \x7b it.id \x7d) \x7b meal -> MealRow(meal) \x7d"
  effort := .trivial
  references := [practicesReference]

def notRemembered (number : Nat) (snippet : String) : Draft where
  line := number
  rule := "remember-computation"
  title := "Expensive Computation Not Wrapped in remember"
  description := "A collection transformation runs on every recomposition."
  priority := .medium
  snippet := snippet
  recommendation :=
    "Wrap the computation in `remember(keys) \x7b \x7d` or derive it in the ViewModel."
  before := some "val sorted = meals.sortedBy \x7b it.name \x7d"
  after := some "val sorted = remember(meals) \x7b meals.sortedBy \x7b it.name \x7d \x7d"
  references := [practicesReference]

private def snippetOf (line : Line) : String := String.ofList (Text.trim line)

/-- What is said about the parameters of a composable that others can call. -/
def modifierDrafts (lines : List Line) (line : Line) (composable : Composable) : List Draft :=
  if privateFunction.occursIn line then []
  else
    let parameters :=
      Source.parenthesized lines composable.index (composable.header.position - 1)
    match modifierParameter.search? parameters with
    | none => [missingModifier (composable.index + 1) (snippetOf line) composable.name]
    | some found =>
      if (found.group? 1).isNone then
        [modifierDefault (composable.index + 1) (snippetOf line) composable.name]
      else []

/-- What has been said about lazy lists, and the lines about which it has been said. -/
structure ListReport where
  drafts : List Draft
  nested : List Nat
  keyless : List Nat

def listLine (lines : List Line) (report : ListReport) (index : Nat) (line : Line) : ListReport :=
  let report :=
    if lazyList.occursIn line && !report.nested.contains index then
      ⟨report.drafts ++ [nestedLazyList (index + 1) (snippetOf line)], index :: report.nested,
        report.keyless⟩
    else report
  match itemsCall.search? line with
  | none => report
  | some found =>
    if report.keyless.contains index then report
    else if keyArgument.occursIn (Source.parenthesized lines index found.start.position) then report
    else ⟨report.drafts ++ [missingKey (index + 1) (snippetOf line)], report.nested,
      index :: report.keyless⟩

/-- What is said about the lazy lists on some lines. Each line is blamed at most once for the same
fault, though lazy lists may lie inside one another. -/
def listDrafts (lines : List Line) (body : List (Nat × Line)) : List Draft :=
  (body.foldl (fun report (outer, line) =>
    if lazyList.occursIn line then
      (Source.blockBody lines outer).foldl
        (fun report (index, line) => listLine lines report index line) report
    else report) (ListReport.mk [] [] [])).drafts

def composableDrafts (lines : List Line) (composable : Composable) : List Draft :=
  let line := lines[composable.index]?.getD []
  let body := Source.blockBody lines composable.index
  let values := body.filterMap fun (index, line) =>
    if expensiveValue.matchesStart line && !remembered.occursIn line then
      some (notRemembered (index + 1) (snippetOf line))
    else none
  modifierDrafts lines line composable ++ values ++ listDrafts lines body

def rules (text : List Char) : List Draft :=
  let lines := Text.lines text
  (composables lines).flatMap (composableDrafts lines)

def concerns (file : SourceFile) : Bool :=
  outsideTests file && (file.layer == some .ui || file.isNamed ["Screen.kt"])

def analyzer : Analyzer :=
  .ofRules "compose" "Compose Analyzer" .compose concerns fun _ => rules

end KotlinAudit.Rule.Compose
