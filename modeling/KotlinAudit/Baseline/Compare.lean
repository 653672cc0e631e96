import KotlinAudit.Baseline.Basic

/-! Comparing a run with a baseline. Counts and averages improve when they shrink and change by
percent; coverage improves when it grows and changes by percentage points. -/
namespace KotlinAudit

open Decimal (Binary64)

inductive ChangeError
  /-- A change is beyond the largest binary number. -/
  | tooLarge
deriving DecidableEq, Repr

/-- The change between two counts in percent of the first one, or of one when that is not positive. -/
def countChange (before after : Int) : Except ChangeError Binary64 :=
  let base : Int := if 0 < before then before else 1
  match Binary64.ofRat? (((after - before).natAbs : Rat) / (base : Rat)) with
  | some share => .ok (share.mul (.ofRat 100))
  | none => .error .tooLarge

/-- The change between two averages in percent of the first one, or of one when that is not
positive. -/
def averageChange (before after : Binary64) : Binary64 :=
  let base := if Binary64.zero.lt before then before else .ofRat 1
  (((after.sub before).abs).div base).mul (.ofRat 100)

inductive Change
  | improved (value : Binary64)
  | regressed (value : Binary64)
  | none

namespace Change

def ofCounts (before after : Int) : Except ChangeError Change := do
  if after < before then return improved (← countChange before after)
  else if before < after then return regressed (← countChange before after)
  else return none

def ofAverages (before after : Binary64) : Change :=
  if after.lt before then improved (averageChange before after)
  else if before.lt after then regressed (averageChange before after)
  else none

def ofCoverages (before after : Binary64) : Change :=
  if before.lt after then improved (after.sub before)
  else if after.lt before then regressed (before.sub after)
  else none

def improvement? : Change → Option Binary64
  | improved value => some value
  | _ => Option.none

def regression? : Change → Option Binary64
  | regressed value => some value
  | _ => Option.none

end Change

def Metrics.changes (current before : Metrics) : Except ChangeError (List (String × Change)) := do
  let counts ← Priority.all.mapM fun priority => do
    let change ← Change.ofCounts (before.byPriority.get priority) (current.byPriority.get priority)
    return (priority.name ++ "_issues", change)
  return counts ++
    [("average_complexity", .ofAverages before.averageComplexity current.averageComplexity),
      ("average_function_length",
        .ofAverages before.averageFunctionLength current.averageFunctionLength),
      ("average_class_length", .ofAverages before.averageClassLength current.averageClassLength),
      ("test_coverage", .ofCoverages before.testCoverage current.testCoverage),
      ("documentation_coverage",
        .ofCoverages before.documentationCoverage current.documentationCoverage)]

/-- The comparison of a run with a baseline. Findings are compared only when the identifiers of the
run's findings are given. -/
def Baseline.compare (baseline : Baseline) (current : Metrics) (ids : Option (List String)) :
    Except ChangeError Comparison := do
  let changes ← current.changes baseline.metrics
  let improved := changes.filterMap fun (name, change) => change.improvement?.map (name, ·)
  let regressed := changes.filterMap fun (name, change) => change.regression?.map (name, ·)
  match ids with
  | none => return ⟨improved, regressed, [], []⟩
  | some ids =>
    let ids := Text.sortedSet ids
    return ⟨improved, regressed, baseline.findingIds.filter (!ids.contains ·),
      ids.filter (!baseline.findingIds.contains ·)⟩

end KotlinAudit
