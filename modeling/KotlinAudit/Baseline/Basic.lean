import KotlinAudit.Metrics.Basic
import KotlinAudit.Text.Scan

/-! Baselines, what differs from them, and the entries of the analysis history. -/
namespace KotlinAudit

open Decimal (Binary64)
open Record (Checked)

/-- A snapshot of a run: its metrics and the identifiers of its findings, as a sorted set. -/
structure Baseline where
  timestamp : Int
  metrics : Metrics
  findingIds : List String
deriving DecidableEq, Repr, Inhabited

abbrev Changes := List (String × Binary64)

structure Comparison where
  improved : Changes
  regressed : Changes
  resolved : List String
  newIssues : List String
deriving DecidableEq, Repr, Inhabited

structure HistoryEntry where
  timestamp : Int
  metrics : Metrics
  findingCount : Int
  findingIds : List String
  comparison : Option Comparison
deriving DecidableEq, Repr, Inhabited

namespace Baseline

def ofFindings (timestamp : Int) (metrics : Metrics) (findings : List Finding) : Baseline :=
  ⟨timestamp, metrics, Text.sortedSet (findings.map (·.id))⟩

def readWith (number : Json → Checked Binary64) (json : Json) : Checked Baseline :=
  Record.fields json fun fields =>
    Baseline.mk <$> fields.required "timestamp" Record.int
      <*> fields.required "metrics" (Metrics.readWith number)
      <*> (Text.sortedSet <$> fields.withDefault "finding_ids" [] (Record.list Record.text))

def read : Json → Checked Baseline := readWith Record.float

def readStored : Json → Checked Baseline := readWith Record.storedFloat

def toJson (baseline : Baseline) : Json :=
  .object [("timestamp", .int baseline.timestamp), ("metrics", baseline.metrics.toJson),
    ("finding_ids", .texts baseline.findingIds)]

end Baseline

namespace Comparison

def empty : Comparison := ⟨[], [], [], []⟩

def readWith (number : Json → Checked Binary64) (json : Json) : Checked Comparison :=
  Record.fields json fun fields =>
    Comparison.mk <$> fields.withDefault "improved" [] (Record.mapping some number)
      <*> fields.withDefault "regressed" [] (Record.mapping some number)
      <*> fields.withDefault "resolved" [] (Record.list Record.text)
      <*> fields.withDefault "new_issues" [] (Record.list Record.text)

def read : Json → Checked Comparison := readWith Record.float

def changesJson (changes : Changes) : Json :=
  .object (changes.map fun (name, value) => (name, .float value))

def toJson (comparison : Comparison) : Json :=
  .object [("improved", changesJson comparison.improved),
    ("regressed", changesJson comparison.regressed), ("resolved", .texts comparison.resolved),
    ("new_issues", .texts comparison.newIssues)]

end Comparison

namespace HistoryEntry

def readStored (json : Json) : Checked HistoryEntry :=
  Record.fields json fun fields =>
    HistoryEntry.mk <$> fields.required "timestamp" Record.int
      <*> fields.required "metrics" (Metrics.readWith Record.storedFloat)
      <*> fields.required "finding_count" Record.int
      <*> fields.withDefault "finding_ids" [] (Record.list Record.text)
      <*> fields.withDefault "comparison" none 
        (Record.nullable (Comparison.readWith Record.storedFloat))

def toJson (entry : HistoryEntry) : Json :=
  .object [("timestamp", .int entry.timestamp), ("metrics", entry.metrics.toJson),
    ("finding_count", .int entry.findingCount), ("finding_ids", .texts entry.findingIds),
    ("comparison", .optional Comparison.toJson entry.comparison)]

end HistoryEntry
end KotlinAudit
