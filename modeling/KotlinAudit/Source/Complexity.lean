import KotlinAudit.Pattern.Search
import KotlinAudit.Text.Lines

/-! Measures of a declaration: decision points, nesting and parameters. All are counted on lines
without the contents of quoted texts and without comments at their ends. -/
namespace KotlinAudit.Source

open Text (Line)

section Noise
open Pattern

def stringLiteral : Pattern :=
  all [only '"', many (either (all [only '\\', inLine]) (noneOf "\"\\")), only '"']

def lineComment : Pattern := all [text "//", many inLine, finish]

/-- Words and signs at which control flow divides. -/
def decision : Pattern :=
  oneOf [all [wordEdge, texts ["if", "for", "while", "catch"], wordEdge], text "&&", text "||",
    text "?:"]

end Noise

/-- The line with its quoted texts emptied and without a comment at its end. -/
def withoutNoise (line : Line) : Line :=
  lineComment.replaceAll (fun _ => []) (stringLiteral.replaceAll (fun _ => ['"', '"']) line)

/-- Whether the first arrow of a line has no opening brace before it. -/
def isBranch (line : Line) : Bool :=
  match Text.find? ['-', '>'] line with
  | none => false
  | some column => !(line.take column).contains '\x7b'

/-- One more than the number of decision points. -/
def complexity (lines : List Line) : Nat :=
  (lines.map withoutNoise).foldl (fun count line =>
    count + (decision.findAll line).length + (if isBranch line then 1 else 0)) 1

/-- The depth after a character, and the greatest depth so far. -/
def nestingStep : Int × Int → Char → Int × Int
  | (depth, deepest), c =>
    if c = '\x7b' then (depth + 1, max deepest (depth + 1))
    else if c = '\x7d' then (depth - 1, deepest)
    else (depth, deepest)

/-- How deep braces nest inside a body. The body's own braces are not counted. -/
def nesting (lines : List Line) : Nat :=
  let (_, deepest) := ((lines.map withoutNoise).flatten).foldl nestingStep (0, 0)
  (deepest - 1).toNat

/-- A way through a parameter list: how many brackets of every kind are open, how many separators
of the list itself have been passed, and whether something has stood since the last one. -/
structure ParameterScan where
  depth : Nat
  commas : Nat
  filled : Bool
deriving DecidableEq, Repr

namespace ParameterScan

def count (scan : ParameterScan) : Nat := if scan.filled then scan.commas + 1 else scan.commas

/-- Goes over a character. The way ends, with the number of parameters, where the list closes. -/
def next (scan : ParameterScan) (c : Char) : Except Nat ParameterScan :=
  if c == '(' || c == '<' || c == '[' then
    .ok { scan with depth := scan.depth + 1, filled := scan.filled || !(scan.depth = 0 && c == '(') }
  else if c == ')' || c == '>' || c == ']' then
    if scan.depth = 1 then .error scan.count
    else .ok { scan with depth := scan.depth - 1, filled := true }
  else if scan.depth = 1 && c == ',' then .ok ⟨scan.depth, scan.commas + 1, false⟩
  else .ok { scan with filled := scan.filled || !Text.isBlank c }

/-- Goes over a line; arrows close no bracket. -/
def nextLine (scan : ParameterScan) (line : Line) : Except Nat ParameterScan :=
  (Text.replaceAll '-' ['>'] [' ', ' '] line).foldlM next scan

/-- Goes over lines up to the end of the list. -/
def total (scan : ParameterScan) (lines : List Line) : Nat :=
  match lines.foldlM (fun scan line => scan.nextLine (withoutNoise line)) scan with
  | .error count => count
  | .ok scan => scan.count

end ParameterScan

/-- The number of parameters in the first parenthesised list of some lines. -/
def parameterCount (lines : List Line) : Nat :=
  match lines.dropWhile fun line => !(withoutNoise line).contains '(' with
  | [] => 0
  | first :: rest =>
    match ParameterScan.nextLine ⟨0, 0, false⟩ ((withoutNoise first).dropWhile (· != '(')) with
    | .error count => count
    | .ok scan => scan.total rest

end KotlinAudit.Source
