import KotlinAudit.Analyzer
import KotlinAudit.Source.Declaration

/-! Work that allocates anew on every turn of a loop. -/
namespace KotlinAudit.Rule.Performance

open Source (startsWith)
open Text (Line)

section Patterns
open Pattern

def loopStart : Pattern :=
  either (all [start, blanks, texts ["for", "while"], blanks, only '('])
    (all [text ".forEach", optional (text "Indexed"), blanks, among "(\x7b"])

/-- An operation on a collection; the group holds its kind. -/
def collectionOperation : Pattern :=
  all [only '.', capture 1 (texts ["filter", "map", "flatMap", "distinct", "sorted"]),
    many wordChar, wordEdge]

def materialization : Pattern := all [text ".to", texts ["List", "Set"], text "()"]

/-- A variable that holds text; the group holds its name. -/
def stringVariable : Pattern :=
  all [start, blanks, text "var", oneOrMore blank, capture 1 word, blanks,
    either (all [only ':', blanks, text "String", wordEdge]) (all [only '=', blanks, only '"'])]

/-- An assignment that puts something at the end of a variable. -/
def appending (name : List Char) : Pattern :=
  all [wordEdge, chars name, blanks,
    either (text "+=") (all [only '=', blanks, chars name, blanks, only '+'])]

end Patterns

/-- Whether a line makes a collection only to make another one from it. -/
def chainsCollections (line : Line) : Bool :=
  if Text.contains "asSequence()".toList line then false
  else
    let operations := (collectionOperation.findAll line).map (·.group 1)
    match operations with
    | [] => false
    | first :: rest => rest.any (· != first) || materialization.occursIn line

def collectionChain (number : Nat) (snippet : String) : Draft where
  line := number
  rule := "loop-collection-chain"
  title := "Inefficient List Operations in Loop"
  description :=
    "Chained collection operations allocate an intermediate list on every iteration."
  priority := .medium
  snippet := snippet
  recommendation :=
    "Use asSequence() for the chain or hoist the computation out of the loop."
  before := some "items.filter \x7b it.isValid \x7d.map \x7b it.name \x7d"
  after := some
    "items.asSequence().filter \x7b it.isValid \x7d.map \x7b it.name \x7d.toList()"
  references := ["https://kotlinlang.org/docs/sequences.html"]

def stringConcatenation (number : Nat) (snippet : String) : Draft where
  line := number
  rule := "loop-string-concatenation"
  title := "String Concatenation in Loop"
  description :=
    "Appending to a String inside a loop copies the whole string on every iteration."
  priority := .medium
  snippet := snippet
  recommendation := "Collect the pieces with buildString \x7b \x7d or joinToString()."
  before := some "var text = \"\"\nfor (item in items) \x7b text += item.name \x7d"
  after := some
    "val text = buildString \x7b items.forEach \x7b append(it.name) \x7d \x7d"
  references := ["https://kotlinlang.org/api/core/kotlin-stdlib/kotlin.text/build-string.html"]

/-- What is said about a line in a loop, given the names of the variables that hold text. -/
def loopLineDraft? (textNames : List (List Char)) (index : Nat) (line : Line) : Option Draft :=
  let snippet := String.ofList (Text.trim line)
  if startsWith "//" line then none
  else if chainsCollections line then some (collectionChain (index + 1) snippet)
  else if textNames.any fun name => (appending name).occursIn line then
    some (stringConcatenation (index + 1) snippet)
  else none

/-- The names of the variables that hold text, each once. -/
def stringVariables (lines : List Line) : List (List Char) :=
  (lines.filterMap fun line => (stringVariable.matchStart? line).map (·.group 1)).eraseDups

/-- What is said about the loop that starts at a line, lines already reported left out. -/
def loopDrafts (lines : List Line) (textNames : List (List Char)) (reported : List Nat)
    (start : Nat) : List (Nat × Draft) :=
  (Source.blockBody lines start).filterMap fun (index, line) =>
    if reported.contains index then none
    else (loopLineDraft? textNames index line).map fun draft => (index, draft)

def rules (text : List Char) : List Draft :=
  let lines := Text.lines text
  let textNames := stringVariables lines
  let found := lines.zipIdx.foldl (fun found (line, index) =>
    if startsWith "//" line || !loopStart.occursIn line then found
    else found ++ loopDrafts lines textNames (found.map (·.1)) index) []
  found.map (·.2)

def analyzer : Analyzer :=
  .ofRules "performance" "Performance Analyzer" .performance outsideTests fun _ => rules

end KotlinAudit.Rule.Performance
