import KotlinAudit.Finding.Basic
import KotlinAudit.Metrics.Estimate

/-! Putting the findings of all producers together: priorities are raised to the floors of their
categories, then findings of the same issue are reduced to one. -/
namespace KotlinAudit

/-- Findings by key, keys in order of first appearance. -/
abbrev Groups (κ : Type) := List (κ × List Finding)

def Groups.add {κ : Type} [BEq κ] (key : κ) (finding : Finding) : Groups κ → Groups κ
  | [] => [(key, [finding])]
  | (other, group) :: rest =>
    if other == key then (other, group ++ [finding]) :: rest
    else (other, group) :: add key finding rest

def Groups.ofFindings {κ : Type} [BEq κ] (key : Finding → κ) (findings : List Finding) : Groups κ :=
  findings.foldl (fun groups finding => groups.add (key finding) finding) []

/-- Findings without duplicates, with their metrics and their groups. -/
structure Aggregate where
  findings : List Finding
  metrics : Metrics
  byCategory : Groups Category
  byPriority : Groups Priority
  byFile : Groups String
deriving DecidableEq, Repr

namespace Aggregate

/-- Takes in one more finding. The place of an issue is that of its first finding, and the finding
kept is the first among the most severe ones. -/
def keep : List Finding → Finding → List Finding
  | [], finding => [finding]
  | kept :: rest, finding =>
    if kept.key = finding.key then
      (if finding.priority.moreSevere kept.priority then finding else kept) :: rest
    else kept :: keep rest finding

def withoutDuplicates (findings : List Finding) : List Finding := findings.foldl keep []

def ofFindings (findings : List Finding) : Except MetricsError Aggregate := do
  let kept := withoutDuplicates (findings.map Finding.raised)
  let metrics ← Metrics.ofFindings kept
  return {
    findings := kept
    metrics := metrics
    byCategory := .ofFindings (·.category) kept
    byPriority := .ofFindings (·.priority) kept
    byFile := .ofFindings (·.file) kept }

end Aggregate
end KotlinAudit
