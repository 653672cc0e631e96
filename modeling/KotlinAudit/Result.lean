import KotlinAudit.Finding.Basic
import KotlinAudit.Metrics.Basic
import KotlinAudit.Record.Field

/-! Findings read from data, and the outcome of an analysis run. -/
namespace KotlinAudit

open Record (Checked)

def Finding.read (json : Json) : Checked Finding :=
  Record.fields json fun fields =>
    Finding.mk <$> fields.required "id" Record.text
      <*> fields.required "analyzer" Record.text
      <*> fields.required "category" (Record.choice Category.ofName?)
      <*> fields.required "priority" (Record.choice Priority.ofName?)
      <*> fields.required "title" Record.text
      <*> fields.required "description" Record.text
      <*> fields.required "file" Record.text
      <*> fields.required "line" Record.int
      <*> fields.withDefault "column" none (Record.nullable Record.int)
      <*> fields.withDefault "code_snippet" "" Record.text
      <*> fields.withDefault "recommendation" "" Record.text
      <*> fields.withDefault "before_example" none (Record.nullable Record.text)
      <*> fields.withDefault "after_example" none (Record.nullable Record.text)
      <*> fields.withDefault "auto_fixable" false Record.bool
      <*> fields.withDefault "effort" .small (Record.choice Effort.ofName?)
      <*> fields.withDefault "references" [] (Record.list Record.text)

def Finding.toJson (finding : Finding) : Json :=
  .object [("id", .text finding.id), ("analyzer", .text finding.analyzer),
    ("category", .text finding.category.name), ("priority", .text finding.priority.name),
    ("title", .text finding.title), ("description", .text finding.description),
    ("file", .text finding.file), ("line", .int finding.line),
    ("column", .optional .int finding.column), ("code_snippet", .text finding.snippet),
    ("recommendation", .text finding.recommendation),
    ("before_example", .optional .text finding.before),
    ("after_example", .optional .text finding.after), ("auto_fixable", .bool finding.autoFixable),
    ("effort", .text finding.effort.name), ("references", .texts finding.references)]

open Decimal (Binary64)

inductive Mode
  | full | incremental | filtered
deriving DecidableEq, Repr, Inhabited

namespace Mode

def all : List Mode := [full, incremental, filtered]

def name : Mode → String
  | full => "full"
  | incremental => "incremental"
  | filtered => "filtered"

def ofName? (text : String) : Option Mode := all.find? (·.name == text)

end Mode

structure Result where
  findings : List Finding
  metrics : Metrics
  executionTime : Binary64
  filesAnalyzed : Int
  mode : Mode
  reportPath : Option Path
deriving DecidableEq, Repr, Inhabited

def Result.read (json : Json) : Checked Result :=
  Record.fields json fun fields =>
    Result.mk <$> fields.withDefault "findings" [] (Record.list Finding.read)
      <*> fields.withDefault "metrics" .empty Metrics.read
      <*> fields.withDefault "execution_time" .zero Record.float
      <*> fields.withDefault "files_analyzed" 0 Record.int
      <*> fields.withDefault "mode" .full (Record.choice Mode.ofName?)
      <*> fields.withDefault "report_path" none (Record.nullable Record.path)

end KotlinAudit
