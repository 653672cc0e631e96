import KotlinAudit.Analyzer
import KotlinAudit.Pattern.Search
import KotlinAudit.Source.Declaration
import KotlinAudit.Text.CaseMapping

/-! Names of files, types, functions and constants: the three conventions for them, and rewriting a name to
follow one of them. -/
namespace KotlinAudit

namespace Text.NameCase

section Patterns
open Pattern

def upperLetter : Pattern := char fun c => 'A' ≤ c && c ≤ 'Z'
def lowerLetter : Pattern := char fun c => 'a' ≤ c && c ≤ 'z'
def letterOrDigit : Pattern := char fun c => isAsciiLetter c || isAsciiDigit c
def upperOrDigit : Pattern :=
  char fun c => ('A' ≤ c && c ≤ 'Z') || isAsciiDigit c

def pascal : Pattern := all [start, upperLetter, many letterOrDigit, finish]
def camel : Pattern := all [start, lowerLetter, many letterOrDigit, finish]

/-- Capital letters and digits in groups between single underscores. -/
def upperSnake : Pattern :=
  all [start, upperLetter, many upperOrDigit, many (all [only '_', oneOrMore upperOrDigit]), finish]

/-- A capital letter right after a small letter or a digit. -/
def boundary : Pattern :=
  all [capture 1 (char fun c => ('a' ≤ c && c ≤ 'z') || isAsciiDigit c), capture 2 upperLetter]

def separators : Pattern :=
  oneOrMore (char fun c => c == '_' || c == '-' || isBlank c)

end Patterns

def toUpperSnake (name : List Char) : List Char :=
  upper (boundary.replaceAll (fun found => found.group 1 ++ '_' :: found.group 2) name)

def mapFirst (change : Char → List Char) : List Char → List Char
  | [] => []
  | c :: rest => change c ++ rest

def toPascal (name : List Char) : List Char :=
  (separators.split name).flatMap (mapFirst upperChar)

def toCamel (name : List Char) : List Char :=
  mapFirst (fun c => lower [c]) (toPascal name)

end Text.NameCase

namespace Rule.Naming

open Source (nameGroup typeParameters receiver)
open Text (Line)

private def conventionsReference : String :=
  "https://kotlinlang.org/docs/coding-conventions.html#naming-rules"

/-- Build scripts keep their customary names. -/
private def exemptFiles : List String := ["build.gradle.kts", "settings.gradle.kts"]

section Patterns
open Pattern

def modifiers (words : List String) : Pattern := many (all [texts words, oneOrMore blank])

def typeDeclaration : Pattern :=
  all [modifiers ["public", "private", "internal", "protected", "data", "sealed", "enum",
      "abstract", "open", "inner", "value", "annotation"],
    texts ["class", "interface", "object"], oneOrMore blank, capture nameGroup word]

def functionDeclaration : Pattern :=
  all [modifiers ["public", "private", "internal", "protected", "suspend", "inline", "override",
      "operator", "open", "abstract"],
    text "fun", oneOrMore blank, typeParameters, receiver, capture nameGroup word, blanks,
    only '(']

def constDeclaration : Pattern :=
  all [optional (all [texts ["public", "private", "internal", "protected"], oneOrMore blank]),
    text "const", oneOrMore blank, text "val", oneOrMore blank, capture nameGroup word]

def composableNamed (name : List Char) : Pattern :=
  all [text "@Composable", oneOrMore blank, many (all [word, oneOrMore blank]), text "fun",
    oneOrMore blank, chars name, wordEdge]

end Patterns

def fileName (file : SourceFile) : Option Draft :=
  if exemptFiles.contains file.name || file.extension != "kt" then none
  else if Text.NameCase.pascal.matchesStart file.stem.toList then none
  else
    let name := file.name
    let renamed := String.ofList (Text.NameCase.toPascal file.stem.toList)
    some {
      line := 1
      rule := "file-name"
      title := "File Name Does Not Follow PascalCase Convention"
      description := s!"File '{name}' should be named in PascalCase."
      priority := .low
      recommendation := s!"Rename the file to '{renamed}.kt'."
      effort := .trivial
      references := [conventionsReference] }

def typeName (number : Nat) (line name : Line) : Option Draft :=
  if Text.NameCase.pascal.matchesStart name then none
  else
    let renamed := String.ofList (Text.NameCase.toPascal name)
    let name := String.ofList name
    some {
      line := number
      rule := "class-name"
      title := "Class Name Does Not Follow PascalCase Convention"
      description := s!"Type '{name}' should be named in PascalCase."
      priority := .low
      snippet := String.ofList line
      recommendation := s!"Rename '{name}' to '{renamed}'."
      effort := .trivial
      references := [conventionsReference] }

/-- Composable functions are exempt, as their names are customarily in Pascal case. -/
def functionName (text : List Char) (number : Nat) (line name : Line) : Option Draft :=
  if Text.NameCase.camel.matchesStart name then none
  else if (composableNamed name).occursIn text then none
  else
    let renamed := String.ofList (Text.NameCase.toCamel name)
    let name := String.ofList name
    some {
      line := number
      rule := "function-name"
      title := "Function Name Does Not Follow camelCase Convention"
      description := s!"Function '{name}' should be named in camelCase."
      priority := .low
      snippet := String.ofList line
      recommendation := s!"Rename '{name}' to '{renamed}'."
      effort := .trivial
      references := [conventionsReference] }

def constantName (number : Nat) (line name : Line) : Option Draft :=
  if Text.NameCase.upperSnake.matchesStart name then none
  else
    let renamed := String.ofList (Text.NameCase.toUpperSnake name)
    let name := String.ofList name
    some {
      line := number
      rule := "constant-name"
      title := "Constant Does Not Follow UPPER_SNAKE_CASE Convention"
      description := s!"Constant '{name}' should be named in UPPER_SNAKE_CASE."
      priority := .low
      snippet := String.ofList line
      recommendation := s!"Rename '{name}' to '{renamed}'."
      before := some s!"const val {name} = ..."
      after := some s!"const val {renamed} = ..."
      autoFixable := true
      effort := .trivial
      references := [conventionsReference] }

def isComment (line : Line) : Bool :=
  ["//", "*", "/*"].any fun sign => sign.toList.isPrefixOf line

def lineDraft (text : List Char) (number : Nat) (line : Line) : Option Draft :=
  if isComment line then none
  else match typeDeclaration.matchStart? line with
    | some found => typeName number line (found.group nameGroup)
    | none =>
      match functionDeclaration.matchStart? line with
      | some found => functionName text number line (found.group nameGroup)
      | none =>
        match constDeclaration.matchStart? line with
        | some found => constantName number line (found.group nameGroup)
        | none => none

def rules (file : SourceFile) (text : List Char) : List Draft :=
  (fileName file).toList ++ (Text.lines text).zipIdx.filterMap fun (line, index) =>
    lineDraft text (index + 1) (Text.trim line)

def analyzer : Analyzer :=
  .ofRules "naming" "Naming Analyzer" .naming outsideTests rules

end Rule.Naming
end KotlinAudit
