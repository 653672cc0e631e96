import KotlinAudit.Baseline.Basic
import KotlinAudit.Console.Status
import KotlinAudit.Console.Table
import KotlinAudit.Decimal.Binary64
import KotlinAudit.Result

/-! What is shown after a run: its summary, and its comparison with a baseline. -/
namespace KotlinAudit.Console

def summaryRows (result : Result) : List (List String) :=
  [["Mode", result.mode.name], ["Files analyzed", toString result.filesAnalyzed],
    ["Findings", toString result.metrics.totalFindings]] ++
  (Priority.all.map fun priority =>
    ["  " ++ priority.name, toString (result.metrics.byPriority.get priority)]) ++
  [["Execution time", result.executionTime.toFixed 2 ++ "s"]]

def summaryLines (result : Result) : List String :=
  tableLines [⟨[], .left, .ellipsis, false, "Execution time".length, 0, 1⟩,
      ⟨[], .right, .ellipsis, false, 0, 1, 0⟩] none
      ((summaryRows result).map fun row => row.map (·.toList)) ++
    (result.reportPath.toList.map fun path =>
      String.ofList (printed ("Report: " ++ path.text).toList))

/-- The rows for metrics that have changed, in the order of their names. -/
def changeRows (status : String) (changes : Changes) : List (List String) :=
  (changes.mergeSort fun left right => Text.le left.1 right.1).map fun (name, value) =>
    [name, status, value.toFixed 1 ++ "%"]

/-- The comparison of a run with a baseline. The rule below the headings is heavy in colour. Tags in
the names of metrics are followed, and names of emoji where emoji are wanted. -/
def comparisonLines (comparison : Comparison) (color emoji : Bool) :
    Except Markup.Fault (List String) := do
  let column (heading : String) (alignment : Alignment) (overflow : Overflow) : Column :=
    ⟨heading.toList, alignment, overflow, true, 0, 1, 1⟩
  let rows := changeRows "improved" comparison.improved ++
    changeRows "regressed" comparison.regressed ++
    [["new findings", "", toString comparison.newIssues.length],
      ["resolved findings", "", toString comparison.resolved.length]]
  let rows ← rows.mapM fun row => row.mapM fun text => Markup.shown emoji text.toList
  return tableLines [column "Metric" .left .fold, column "Status" .left .ellipsis,
    column "Change" .right .ellipsis] (some (if color then '━' else '─')) rows

end KotlinAudit.Console
