import KotlinAudit.Baseline.Compare
import KotlinAudit.Baseline.Store
import KotlinAudit.Decimal.Binary64
import KotlinAudit.Result
import KotlinAudit.Text.CaseMapping

/-! The report of a run as a Markdown document, with its moment as a calendar date, and the file
it stands in. -/
namespace KotlinAudit

inductive MomentError
  /-- More seconds than a binary number or a clock of 64 bits can count. -/
  | tooLarge
  /-- The year has no 32-bit number. -/
  | noYear
  /-- The year is not between 1 and 9999. -/
  | yearOutOfRange
deriving DecidableEq, Repr

structure Moment where
  year : Int
  month : Nat
  day : Nat
  hour : Nat
  minute : Nat
  second : Nat
deriving DecidableEq, Repr

namespace Moment

/-- Year, month and day of a day counted from the epoch. Years are counted from March, so that a
leap day is the last day of its year, in cycles of four hundred years. -/
def ofDays (days : Int) : Int × Nat × Nat :=
  let shifted := days + 719468
  let cycle := Int.fdiv shifted 146097
  let dayOfCycle := (Int.fmod shifted 146097).toNat
  let yearOfCycle :=
    (dayOfCycle - dayOfCycle / 1460 + dayOfCycle / 36524 - dayOfCycle / 146096) / 365
  let dayOfYear := dayOfCycle - (365 * yearOfCycle + yearOfCycle / 4 - yearOfCycle / 100)
  let monthFromMarch := (5 * dayOfYear + 2) / 153
  let day := dayOfYear - (153 * monthFromMarch + 2) / 5 + 1
  let month := if monthFromMarch < 10 then monthFromMarch + 3 else monthFromMarch - 9
  let year := cycle * 400 + yearOfCycle + (if month ≤ 2 then 1 else 0)
  (year, month, day)

def ofSeconds (seconds : Int) : Moment :=
  let (year, month, day) := ofDays (Int.fdiv seconds 86400)
  let ofDay := (Int.fmod seconds 86400).toNat
  ⟨year, month, day, ofDay / 3600, ofDay / 60 % 60, ofDay % 60⟩

/-- The greatest year that has a 32-bit number when years are counted from 1900. -/
private def lastYear : Int := 2147483647 + 1900
private def firstYear : Int := -2147483648 + 1900

/-- The clock counts seconds in 64 bits. -/
private def clockBound : Int := 9223372036854775808

/-- The moment a count of milliseconds after the epoch, to the second. -/
def ofMillis (millis : Int) : Except MomentError Moment :=
  match (Decimal.Binary64.ofRat? ((millis : Rat) / 1000)).bind Decimal.Binary64.toRat? with
  | none => .error .tooLarge
  | some seconds =>
    let whole := seconds.floor
    -- the clock counts whole seconds towards the epoch
    let counted := if seconds < 0 then seconds.ceil else whole
    if counted < -clockBound || clockBound ≤ counted then .error .tooLarge
    else
      let moment := ofSeconds whole
      if moment.year < firstYear || lastYear < moment.year then .error .noYear
      else if moment.year < 1 || 9999 < moment.year then .error .yearOutOfRange
      else .ok moment

private def twoDigits (n : Nat) : String := if n < 10 then s!"0{n}" else toString n

def text (moment : Moment) : String :=
  let year := moment.year
  s!"{year}-" ++ twoDigits moment.month ++ "-" ++ twoDigits moment.day ++ " " ++
    twoDigits moment.hour ++ ":" ++ twoDigits moment.minute ++ ":" ++ twoDigits moment.second ++
    " UTC"

end Moment

inductive ReportError
  | change (error : ChangeError)
  | moment (error : MomentError)
deriving DecidableEq, Repr

namespace Report

open Decimal (Binary64)

/-- A name as a heading: hyphens become blanks and words start with capitals. -/
def label (name : String) : String :=
  String.ofList (Text.title (name.toList.map fun c => if c == '-' then ' ' else c))

private def row (cells : List String) : String := "| " ++ " | ".intercalate cells ++ " |"

def table (headers : List String) (rows : List (List String)) : List String :=
  row headers :: ("|" ++ "|".intercalate (headers.map fun _ => "---") ++ "|") :: rows.map row

private def tenths (value : Binary64) : String := value.toFixed 1

/-- Changes and coverages are written in percent with one place. -/
private def percent (value : Binary64) : String := value.toFixed 1 ++ "%"

def summaryValues (metrics : Metrics) : List String :=
  [toString metrics.totalFiles, toString metrics.totalFindings, tenths metrics.averageComplexity,
    tenths metrics.averageFunctionLength, tenths metrics.averageClassLength,
    percent metrics.testCoverage, percent metrics.documentationCoverage]

def summaryLabels : List String :=
  ["Total files with findings", "Total findings", "Average complexity", "Average function length",
    "Average class length", "Test coverage", "Documentation coverage"]

/-- The summary of some metrics, beside those of a baseline if there is one. -/
def summary (metrics : Metrics) (baseline : Option Baseline) : List String :=
  let values := summaryValues metrics
  let overview := match baseline with
    | none =>
      table ["Metric", "Value"] (List.zipWith (fun name value => [name, value]) summaryLabels values)
    | some baseline =>
      table ["Metric", "Value", "Baseline"]
        (List.zipWith (fun name cells => name :: cells) summaryLabels
          (List.zipWith (fun value before => [value, before]) values
            (summaryValues baseline.metrics)))
  let categories := Category.all.filter fun category => 0 < metrics.byCategory.get category
  ["## Executive Summary", ""] ++ overview ++ ["", "### Findings by Priority", ""] ++
    table ["Priority", "Count"] (Priority.all.map fun priority =>
      [label priority.name, toString (metrics.byPriority.get priority)]) ++
    ["", "### Findings by Category", ""] ++
    if categories.isEmpty then ["No findings."]
    else table ["Category", "Count"] (categories.map fun category =>
      [label category.name, toString (metrics.byCategory.get category)])

def changeSection (title : String) (changes : Changes) : List String :=
  if changes.isEmpty then []
  else
    let sorted := changes.mergeSort fun left right => Text.le left.1 right.1
    ["### " ++ title, ""] ++
      table ["Metric", "Change"] (sorted.map fun (name, value) =>
        [label (String.ofList (name.toList.map fun c => if c == '_' then ' ' else c)),
          percent value]) ++ [""]

private def idLine (titles : List (String × String)) (id : String) : String :=
  match titles.lookup id with
  | some title => s!"- `{id}` {title}"
  | none => s!"- `{id}`"

private def idList (titles : List (String × String)) (ids : List String) : List String :=
  if ids.isEmpty then ["None."] else ids.map (idLine titles)

/-- How a run differs from a baseline; new findings are named by their titles. -/
def comparison (comparison : Comparison) (baseline : Baseline) (findings : List Finding) :
    Except MomentError (List String) := do
  let moment ← Moment.ofMillis baseline.timestamp
  let titles := (findings.map fun finding => (finding.id, finding.title)).reverse
  return ["## Baseline Comparison", "", "Compared with baseline from " ++ moment.text ++ ".", ""] ++
    changeSection "Improved Metrics" comparison.improved ++
    changeSection "Regressed Metrics" comparison.regressed ++
    ["### New Findings (" ++ toString comparison.newIssues.length ++ ")", ""] ++
    idList titles comparison.newIssues ++
    ["", "### Resolved Findings (" ++ toString comparison.resolved.length ++ ")", ""] ++
    idList [] comparison.resolved

def codeBlock (code : String) : List String := ["```kotlin", code, "```", ""]

/-- A code example under its heading; an empty one is left out. -/
def example? (heading : String) (code : Option String) : List String :=
  match code with
  | none | some "" => []
  | some code => [heading, ""] ++ codeBlock code

def finding (finding : Finding) : List String :=
  let line := finding.line
  let place := match finding.column with
    | none => s!"line {line}"
    | some column => s!"line {line}, column {column}"
  let id := finding.id
  ["##### " ++ finding.title ++ " (" ++ place ++ ")", "", s!"- **ID:** `{id}`",
    "- **Analyzer:** " ++ finding.analyzer, "- **Category:** " ++ label finding.category.name,
    "- **Effort:** " ++ finding.effort.name, "", finding.description, ""] ++
  (if finding.snippet.isEmpty then [] else codeBlock finding.snippet) ++
  (if finding.recommendation.isEmpty then []
    else ["**Recommendation:** " ++ finding.recommendation, ""]) ++
  example? "Before:" finding.before ++ example? "After:" finding.after ++
  if finding.references.isEmpty then []
  else "References:" :: finding.references.map ("- " ++ ·) ++ [""]

/-- The findings of one priority by file and line. -/
def prioritySection (findings : List Finding) (priority : Priority) : List String :=
  let chosen := findings.filter (·.priority == priority)
  if chosen.isEmpty then []
  else
    ["### " ++ label priority.name ++ " (" ++ toString chosen.length ++ ")", ""] ++
      (Text.sortedSet (chosen.map (·.file))).flatMap fun file =>
        let inFile := (chosen.filter (·.file == file)).mergeSort fun left right =>
          left.line ≤ right.line
        [s!"#### `{file}`", ""] ++ inFile.flatMap finding

def findings (findings : List Finding) : List String :=
  "## Findings" :: "" ::
    if findings.isEmpty then ["No findings. 🎉"]
    else Priority.all.flatMap (prioritySection findings)

def joined (lines : List String) : String := "\n".intercalate lines

/-- The whole report of a run made at a moment. It ends in exactly one line break. -/
def document (now : Int) (result : Result) (baseline : Option Baseline) :
    Except ReportError String := do
  let moment ← (Moment.ofMillis now).mapError .moment
  let header := ["# Code Quality Analysis Report", "", "**Generated:** " ++ moment.text ++ "  ",
    "**Mode:** " ++ result.mode.name ++ "  ",
    "**Files analyzed:** " ++ toString result.filesAnalyzed ++ "  ",
    "**Execution time:** " ++ result.executionTime.toFixed 2 ++ "s", "",
    joined (summary result.metrics baseline)]
  let difference ← match baseline with
    | none => .ok []
    | some baseline => do
      let compared ← (baseline.compare result.metrics
        (some (result.findings.map (·.id)))).mapError ReportError.change
      let lines ← (comparison compared baseline result.findings).mapError ReportError.moment
      .ok ["", joined lines]
  let text := joined (header ++ difference ++ ["", joined (findings result.findings)])
  return String.ofList (Text.trimRight Text.isBlank text.toList) ++ "\n"

/-- Where a report stands in a directory; the suffix tells the kinds of run apart. -/
def pathIn (directory : Path) (suffix : String) : Path :=
  directory.join (Path.ofText ("analysis-report" ++ suffix ++ ".md"))

def save (directory : Path) (suffix text : String) : Action (Except PersistError Path) := do
  let path := pathIn directory suffix
  match ← Workspace.makeDirectory directory with
  | .error error => return .error (.report path error)
  | .ok () =>
    match ← Workspace.change fun workspace =>
        workspace.tree.write path (.text text) workspace.modified with
    | .error error => return .error (.report path error)
    | .ok () => return .ok path

end Report
end KotlinAudit
