import KotlinAudit.Pattern.Search
import KotlinAudit.Text.Lines

/-! Functions and classes declared in a source, with the lines they run over and what stands directly above
them. To find where the block of a declaration ends, braces are counted wherever they stand, also inside
quoted text. -/
namespace KotlinAudit.Source

open Text (Line)

/-- A line without its surrounding white space starts with a sign. -/
def startsWith (sign : String) (line : Line) : Bool := sign.toList.isPrefixOf (Text.trim line)

/-- The lines above an index, the nearest first, without their surrounding white space. -/
def above (lines : List Line) (index : Nat) : List Line := ((lines.take index).reverse).map Text.trim

/-- The annotations stacked directly above a line, the nearest first. -/
def annotationsAbove (lines : List Line) (index : Nat) : List Line :=
  (above lines index).takeWhile (startsWith "@")

/-- Whether a comment ends right above the annotations of a line. -/
def hasDocumentation (lines : List Line) (index : Nat) : Bool :=
  match (above lines index).dropWhile (startsWith "@") with
  | [] => false
  | line :: _ => ['*', '/'].isSuffixOf line

open Pattern in
/-- A parameter list followed by a return type, if any, and an equals sign. -/
def expressionBody : Pattern :=
  all [only ')', blanks,
    optional (all [only ':', blanks,
      oneOrMore (char fun c => Text.isWord c || "<>?,. ".toList.contains c)]),
    blanks, only '=']

/-- How many lines after its first line a declaration may open its block. -/
def headerReach : Nat := 5

/-- Goes over the lines of an open block, `depth` blocks deep, up to the line that closes it. -/
def closingLine? (depth : Int) (index : Nat) : List Line → Option Nat
  | [] => none
  | line :: rest =>
    let depth := depth + line.count '\x7b' - line.count '\x7d'
    if depth ≤ 0 then some index else closingLine? depth (index + 1) rest

/-- Goes over the lines of a header that starts at `start`; `count` is the number of all lines. -/
def blockEndFrom (count start : Nat) (index : Nat) : List Line → Nat
  | [] => start
  | line :: rest =>
    if line.count '\x7b' = 0 then
      if expressionBody.occursIn line then index
      else if start + headerReach ≤ index then start
      else blockEndFrom count start (index + 1) rest
    else (closingLine? 0 index (line :: rest)).getD (count - 1)

/-- The index of the line that closes the block of the declaration at `start`. An expression body
ends on the line with its equals sign, and a declaration without a body ends where it starts. -/
def blockEnd (lines : List Line) (start : Nat) : Nat :=
  blockEndFrom lines.length start start (lines.drop start)

/-- The indexes after `start` up to the end of the block that starts there, with their lines. -/
def blockBody (lines : List Line) (start : Nat) : List (Nat × Line) :=
  let stop := blockEnd lines start
  (lines.zipIdx.map fun (line, index) => (index, line)).filter fun (index, _) =>
    start < index && index ≤ stop

/-- A declaration from its first to its last line, by their indexes. -/
structure Declaration where
  name : String
  first : Nat
  last : Nat
deriving DecidableEq, Repr

namespace Declaration

def lineCount (declaration : Declaration) : Int := declaration.last - declaration.first + 1

def number (declaration : Declaration) : Nat := declaration.first + 1

end Declaration

/-- The group of a header pattern that holds the declared name. -/
def nameGroup : Nat := 1

section Headers
open Pattern

/-- Annotations, with their arguments, and the blanks after them. -/
def annotationList : Pattern :=
  many (all [only '@', word, optional (all [only '(', many (noneOf ")"), only ')']),
    oneOrMore blank])

/-- Words in small letters, each with the blanks after it. -/
def modifierList : Pattern :=
  many (all [oneOrMore (char fun c => 'a' ≤ c && c ≤ 'z'), oneOrMore blank])

/-- Type parameters and a receiver type before the name of a function. -/
def typeParameters : Pattern :=
  optional (all [only '<', many (noneOf ">"), only '>', blanks])

def receiver : Pattern :=
  optional (all [oneOrMore (char fun c => Text.isWord c || ".<>?".toList.contains c), only '.'])

def functionHeader : Pattern :=
  all [start, blanks, annotationList, modifierList, text "fun", oneOrMore blank, typeParameters,
    receiver, capture nameGroup word, blanks, only '(']

def classHeader : Pattern :=
  all [start, blanks, annotationList, modifierList, texts ["class", "object"], oneOrMore blank,
    capture nameGroup word]

end Headers

/-- Whatever a header pattern finds at the start of a line. -/
def declarations (header : Pattern) (lines : List Line) : List Declaration :=
  lines.zipIdx.filterMap fun (line, index) =>
    (header.matchStart? line).map fun found =>
      ⟨String.ofList (found.group nameGroup), index, blockEnd lines index⟩

end KotlinAudit.Source
