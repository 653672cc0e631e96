import KotlinAudit.Finding.Basic
import KotlinAudit.Record.Field

/-! Summary counters over a set of findings, and signals that are estimated from their texts. -/
namespace KotlinAudit

open Decimal (Binary64)
open Record (Checked)

/-- Counts by key in order of appearance. -/
abbrev Counts (κ : Type) := List (κ × Int)

def Counts.get {κ : Type} [BEq κ] (counts : Counts κ) (key : κ) : Int := (counts.lookup key).getD 0

structure Metrics where
  totalFiles : Int
  totalFindings : Int
  byPriority : Counts Priority
  byCategory : Counts Category
  averageComplexity : Binary64
  averageFunctionLength : Binary64
  averageClassLength : Binary64
  testCoverage : Binary64
  documentationCoverage : Binary64
deriving DecidableEq, Repr, Inhabited

namespace Metrics

def fullCoverage : Binary64 := .ofRat 100

def empty : Metrics :=
  ⟨0, 0, [], [], .zero, .zero, .zero, fullCoverage, fullCoverage⟩

def readWith (number : Json → Checked Binary64) (json : Json) : Checked Metrics :=
  Record.fields json fun fields =>
    Metrics.mk <$> fields.withDefault "total_files" 0 Record.int
      <*> fields.withDefault "total_findings" 0 Record.int
      <*> fields.withDefault "findings_by_priority" []
        (Record.mapping Priority.ofName? Record.int)
      <*> fields.withDefault "findings_by_category" []
        (Record.mapping Category.ofName? Record.int)
      <*> fields.withDefault "average_complexity" .zero number
      <*> fields.withDefault "average_function_length" .zero number
      <*> fields.withDefault "average_class_length" .zero number
      <*> fields.withDefault "test_coverage_percentage" fullCoverage number
      <*> fields.withDefault "documentation_coverage_percentage" fullCoverage number

def read : Json → Checked Metrics := readWith Record.float

def countsJson {κ : Type} (name : κ → String) (counts : Counts κ) : Json :=
  .object (counts.map fun (key, count) => (name key, .int count))

def toJson (metrics : Metrics) : Json :=
  .object [("total_files", .int metrics.totalFiles),
    ("total_findings", .int metrics.totalFindings),
    ("findings_by_priority", countsJson Priority.name metrics.byPriority),
    ("findings_by_category", countsJson Category.name metrics.byCategory),
    ("average_complexity", .float metrics.averageComplexity),
    ("average_function_length", .float metrics.averageFunctionLength),
    ("average_class_length", .float metrics.averageClassLength),
    ("test_coverage_percentage", .float metrics.testCoverage),
    ("documentation_coverage_percentage", .float metrics.documentationCoverage)]

end Metrics
end KotlinAudit
