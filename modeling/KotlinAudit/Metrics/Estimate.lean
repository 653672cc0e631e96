import KotlinAudit.Decimal.Numeral
import KotlinAudit.Metrics.Basic
import KotlinAudit.Pattern.Basic
import KotlinAudit.Pattern.Search

/-! Metrics computed from findings. Averages are read off the texts of findings, and coverage is
estimated from the files that findings mention; all of them show trends and measure nothing. -/
namespace KotlinAudit

open Decimal (Binary64)

inductive MetricsError
  /-- A number in a text has too many digits. -/
  | tooManyDigits
  /-- A quotient is beyond the largest binary number. -/
  | tooLarge
deriving DecidableEq, Repr

section Patterns
open Pattern

private def colonOrBlank : Pattern := oneOrMore (char fun c => c == ':' || Text.isBlank c)

/-- A stated complexity; one of the groups holds the number. -/
def complexityPattern : Pattern :=
  either
    (all [textAnyCase "complexity", colonOrBlank, textAnyCase "of", oneOrMore blank,
      capture 1 (oneOrMore digit)])
    (all [textAnyCase "complexity", colonOrBlank, capture 2 (oneOrMore digit)])

/-- A stated count of lines or a length; one of the groups holds the number. -/
def lengthPattern : Pattern :=
  either (all [capture 1 (oneOrMore digit), oneOrMore blank, textAnyCase "lines"])
    (all [textAnyCase "length", colonOrBlank, capture 2 (oneOrMore digit)])

end Patterns

def numberIn (pattern : Pattern) (text : List Char) : Except MetricsError (Option Int) :=
  match pattern.search? text with
  | none => .ok none
  | some found =>
    let digits := ((found.group? 1).or (found.group? 2)).getD []
    if Decimal.maxDigits < digits.length then .error .tooManyDigits
    else .ok (some (Decimal.natOfDigits digits))

private def total (values : List Int) : Int := values.foldl (· + ·) 0

/-- The mean of some numbers, zero if there are none. -/
def average (values : List Int) : Except MetricsError Binary64 :=
  if values.isEmpty then .ok .zero
  else match Binary64.ofRat? ((total values : Rat) / (values.length : Rat)) with
    | some mean => .ok mean
    | none => .error .tooLarge

/-- The covered share in percent, between zero and one hundred; an empty population is covered. -/
def coverage (population uncovered : Nat) : Binary64 :=
  if population = 0 then Metrics.fullCoverage
  else
    let covered : Int := (population : Int) - uncovered
    let share := (Binary64.ofRat ((covered : Rat) / (population : Rat))).mul (.ofRat 100)
    if share.lt .zero then .zero
    else if Metrics.fullCoverage.lt share then Metrics.fullCoverage
    else share

namespace Finding

/-- The text that numbers are read off. -/
def statement (finding : Finding) : List Char :=
  finding.title.toList ++ ' ' :: finding.description.toList

def titleMentions (finding : Finding) (word : String) : Bool :=
  Text.contains word.toList (Text.lower finding.title.toList)

def fileName (finding : Finding) : List Char :=
  (finding.file.toList.reverse.takeWhile (· != '/')).reverse

end Finding

namespace Metrics

/-- Names of files that should have tests contain one of these. -/
def componentMarkers : List String := ["ViewModel", "UseCase", "Repository"]

/-- The mean of the numbers that a pattern finds in code smells whose titles mention some words. -/
def averageOf (pattern : Pattern) (words : List String) (findings : List Finding) :
    Except MetricsError Binary64 := do
  let relevant := findings.filter fun finding =>
    finding.category == .codeSmell && words.all finding.titleMentions
  let numbers ← relevant.mapM fun finding => numberIn pattern finding.statement
  average (numbers.filterMap id)

def estimatedTestCoverage (findings : List Finding) : Binary64 :=
  let missing := findings.filter (·.category == .testCoverage)
  let components := findings.filter fun finding =>
    componentMarkers.any fun marker => Text.contains marker.toList finding.fileName
  coverage ((missing ++ components).map (·.file)).eraseDups.length missing.length

def estimatedDocumentationCoverage (findings : List Finding) : Binary64 :=
  let missing := findings.filter (·.category == .documentation)
  let population := findings.filter fun finding =>
    finding.category == .documentation ||
      Text.contains "public".toList (Text.lower finding.description.toList)
  let places := population.map fun finding =>
    let line := finding.line
    finding.file ++ s!":{line}"
  coverage places.eraseDups.length missing.length

def tally {κ : Type} [BEq κ] (keys : List κ) (key : Finding → κ) (findings : List Finding) :
    Counts κ :=
  keys.map fun each => (each, (findings.countP (key · == each) : Nat))

def ofFindings (findings : List Finding) : Except MetricsError Metrics := do
  let complexity ← averageOf complexityPattern ["complexity"] findings
  let functionLength ← averageOf lengthPattern ["function", "long"] findings
  let classLength ← averageOf lengthPattern ["class", "large"] findings
  return {
    totalFiles := (findings.map (·.file)).eraseDups.length
    totalFindings := findings.length
    byPriority := tally Priority.all (·.priority) findings
    byCategory := tally Category.all (·.category) findings
    averageComplexity := complexity
    averageFunctionLength := functionLength
    averageClassLength := classLength
    testCoverage := estimatedTestCoverage findings
    documentationCoverage := estimatedDocumentationCoverage findings }

end Metrics
end KotlinAudit
