import KotlinAudit.Proofs.Baseline.Compare
import KotlinAudit.Proofs.Decimal.Nearest
import Mathlib.Data.Finset.SDiff
import Mathlib.Data.List.Chain

/-! Comparisons replay what has happened to the findings: what is resolved is taken out, what is new is
put in, and run after run they lead from the first set of findings to the last one. -/
namespace KotlinAudit

open Decimal (Binary64)

/-! ### When there is a comparison -/

/-- A change of a count can be told exactly if it is a binary number in parts of the first count, or of
one when that is not positive. -/
theorem exists_countChange_iff {before after : Int} :
    (∃ value, countChange before after = .ok value) ↔
      (after - before).natAbs < Binary64.overflow * (max before 1).toNat := by
  have hbase : (if 0 < before then before else 1 : Int) = ((max before 1).toNat : Int) := by
    split_ifs <;> omega
  rw [← Binary64.isSome_ofRat?_div_iff _ (by omega)]
  unfold countChange
  dsimp only
  rw [hbase, Int.cast_natCast]
  cases Binary64.ofRat? (((after - before).natAbs : Rat) / ((max before 1).toNat : Rat)) with
  | none => exact iff_of_false nofun nofun
  | some share => exact iff_of_true ⟨_, rfl⟩ rfl

theorem Change.exists_ofCounts_iff {before after : Int} :
    (∃ change, Change.ofCounts before after = .ok change) ↔
      (after - before).natAbs < Binary64.overflow * (max before 1).toNat := by
  rw [← exists_countChange_iff]
  have hmade : ∀ make : Binary64 → Change,
      (∃ change, (do return make (← countChange before after)) = .ok change) ↔
        ∃ value, countChange before after = .ok value := by
    intro make
    constructor
    · rintro ⟨change, h⟩
      obtain ⟨value, hvalue, -⟩ := Outcome.bind_eq_ok.1 h
      exact ⟨value, hvalue⟩
    · rintro ⟨value, hvalue⟩
      exact ⟨make value, Outcome.bind_eq_ok.2 ⟨value, hvalue, rfl⟩⟩
  unfold ofCounts
  split_ifs with hless hmore
  · exact hmade improved
  · exact hmade regressed
  · obtain rfl : after = before := by omega
    refine iff_of_true ⟨_, rfl⟩ (exists_countChange_iff.2 ?_)
    rw [sub_self, Int.natAbs_zero]
    exact Nat.mul_pos Binary64.overflow_pos (by omega)

/-- Metrics whose counts are so near to those before that their changes are binary numbers. -/
def Metrics.Near (current before : Metrics) : Prop :=
  ∀ priority, (current.byPriority.get priority - before.byPriority.get priority).natAbs <
    Binary64.overflow * (max (before.byPriority.get priority) 1).toNat

/-- A comparison is made exactly with metrics that are near. -/
theorem Baseline.exists_compare_iff_near {baseline : Baseline} {metrics : Metrics}
    {ids : List String} :
    (∃ comparison, baseline.compare metrics (some ids) = .ok comparison) ↔
      metrics.Near baseline.metrics := by
  rw [exists_compare_iff, Metrics.exists_changes_iff]
  exact forall_congr' fun _ => Change.exists_ofCounts_iff

namespace Comparison

/-- A set of identifiers with a comparison applied to it. -/
def applied (ids : Finset String) (comparison : Comparison) : Finset String :=
  ids \ comparison.resolved.toFinset ∪ comparison.newIssues.toFinset

/-- A comparison that says what is to be done with one set of identifiers to get another one, and
nothing else. -/
structure Replays (comparison : Comparison) (before after : Finset String) : Prop where
  resolved_increasing : comparison.resolved.Pairwise (· < ·)
  new_increasing : comparison.newIssues.Pairwise (· < ·)
  disjoint : comparison.resolved.Disjoint comparison.newIssues
  applied : comparison.applied before = after
  resolved_known : comparison.resolved.toFinset ⊆ before
  new_unknown : Disjoint comparison.newIssues.toFinset before

end Comparison

/-! ### Runs in a row -/

/-- What a run gives: its metrics and the identifiers of its findings, of which some may repeat. -/
structure Census where
  timestamp : Int
  metrics : Metrics
  ids : List String

namespace Census

variable {before after : Census} {comparison : Comparison}

def idSet (census : Census) : Finset String := census.ids.toFinset

/-- The baseline a run leaves for the next one. -/
def baseline (census : Census) : Baseline :=
  ⟨census.timestamp, census.metrics, Text.sortedSet census.ids⟩

/-- The comparison of a run with the baseline of the run before. -/
def compare (before after : Census) : Except ChangeError Comparison :=
  before.baseline.compare after.metrics (some after.ids)

/-- The comparisons of runs in a row, each with the baseline of the run before. -/
def compareAll (first : Census) : List Census → Except ChangeError (List Comparison)
  | [] => return []
  | next :: rest => do
    let comparison ← first.compare next
    let others ← compareAll next rest
    return comparison :: others

/-- Every baseline whose identifiers are a set is one that a run leaves. -/
theorem exists_baseline_eq_iff {baseline : Baseline} :
    (∃ census : Census, census.baseline = baseline) ↔
      Text.sortedSet baseline.findingIds = baseline.findingIds := by
  constructor
  · rintro ⟨census, rfl⟩
    exact Text.sortedSet_sortedSet census.ids
  · intro h
    exact ⟨⟨baseline.timestamp, baseline.metrics, baseline.findingIds⟩, by rw [Census.baseline, h]⟩

theorem resolved_of_compare (h : before.compare after = .ok comparison) :
    comparison.resolved =
      (Text.sortedSet before.ids).filter (!(Text.sortedSet after.ids).contains ·) := by
  obtain ⟨changes, -, rfl⟩ := Baseline.compare_eq_ok h
  rfl

theorem newIssues_of_compare (h : before.compare after = .ok comparison) :
    comparison.newIssues =
      (Text.sortedSet after.ids).filter (!(Text.sortedSet before.ids).contains ·) := by
  obtain ⟨changes, -, rfl⟩ := Baseline.compare_eq_ok h
  rfl

/-- What one set has and the other one has not. -/
theorem toFinset_filter_not_contains (kept others : List String) :
    ((Text.sortedSet kept).filter (!(Text.sortedSet others).contains ·)).toFinset =
      kept.toFinset \ others.toFinset := by
  ext id
  rw [List.mem_toFinset, List.mem_filter, Text.mem_sortedSet, Finset.mem_sdiff, List.mem_toFinset,
    List.mem_toFinset, Bool.not_eq_true', ← Bool.not_eq_true, List.contains_iff_mem,
    Text.mem_sortedSet]

theorem toFinset_resolved (h : before.compare after = .ok comparison) :
    comparison.resolved.toFinset = before.idSet \ after.idSet := by
  rw [resolved_of_compare h, toFinset_filter_not_contains]
  rfl

theorem toFinset_newIssues (h : before.compare after = .ok comparison) :
    comparison.newIssues.toFinset = after.idSet \ before.idSet := by
  rw [newIssues_of_compare h, toFinset_filter_not_contains]
  rfl

/-- One comparison leads from the identifiers before to those after. -/
theorem applied_of_compare (h : before.compare after = .ok comparison) :
    comparison.applied before.idSet = after.idSet := by
  rw [Comparison.applied, toFinset_resolved h, toFinset_newIssues h, sdiff_sdiff_right_self,
    Finset.inf_eq_inter, Finset.inter_comm, Finset.union_comm]
  exact Finset.sdiff_union_inter after.idSet before.idSet

theorem replays_of_compare (h : before.compare after = .ok comparison) :
    comparison.Replays before.idSet after.idSet := by
  have hdisjoint : Disjoint comparison.resolved.toFinset comparison.newIssues.toFinset := by
    rw [toFinset_resolved h, toFinset_newIssues h]
    exact Finset.disjoint_sdiff.mono_left Finset.sdiff_subset |>.symm
  refine ⟨?_, ?_, List.disjoint_toFinset_iff_disjoint.1 hdisjoint, applied_of_compare h, ?_, ?_⟩
  · rw [resolved_of_compare h]
    exact (Text.pairwise_lt_sortedSet _).filter _
  · rw [newIssues_of_compare h]
    exact (Text.pairwise_lt_sortedSet _).filter _
  · rw [toFinset_resolved h]
    exact Finset.sdiff_subset
  · rw [toFinset_newIssues h]
    exact Finset.sdiff_disjoint

/-- Compared the other way round, what was resolved is new. -/
theorem swapped_of_compare {back : Comparison} (h : before.compare after = .ok comparison)
    (hback : after.compare before = .ok back) :
    back.resolved = comparison.newIssues ∧ back.newIssues = comparison.resolved := by
  rw [resolved_of_compare hback, newIssues_of_compare hback, resolved_of_compare h,
    newIssues_of_compare h]
  exact ⟨rfl, rfl⟩

theorem exists_compare_iff :
    (∃ comparison, before.compare after = .ok comparison) ↔ after.metrics.Near before.metrics :=
  Baseline.exists_compare_iff_near

/-- All runs are compared exactly if each of them is near to the one before. -/
theorem exists_compareAll_iff (first : Census) (rest : List Census) :
    (∃ comparisons, first.compareAll rest = .ok comparisons) ↔
      (first :: rest).IsChain fun before after => after.metrics.Near before.metrics := by
  induction rest generalizing first with
  | nil => exact iff_of_true ⟨[], rfl⟩ (.singleton first)
  | cons next rest ih =>
    rw [List.isChain_cons_cons, ← ih, ← exists_compare_iff]
    constructor
    · rintro ⟨comparisons, h⟩
      obtain ⟨comparison, hcomparison, h⟩ := Outcome.bind_eq_ok.1 h
      obtain ⟨others, hothers, -⟩ := Outcome.bind_eq_ok.1 h
      exact ⟨⟨comparison, hcomparison⟩, others, hothers⟩
    · rintro ⟨⟨comparison, hcomparison⟩, others, hothers⟩
      exact ⟨_, Outcome.bind_eq_ok.2 ⟨comparison, hcomparison,
        Outcome.bind_eq_ok.2 ⟨others, hothers, rfl⟩⟩⟩

/-- Applied one after the other, the comparisons lead to the identifiers of the last run: what has
been replayed so far are the identifiers of the run that is compared next. -/
theorem foldl_applied_of_compareAll {first : Census} {rest : List Census}
    {comparisons : List Comparison} (h : first.compareAll rest = .ok comparisons) :
    comparisons.foldl Comparison.applied first.idSet = (rest.getLastD first).idSet := by
  induction rest generalizing first comparisons with
  | nil =>
    cases h
    rfl
  | cons next rest ih =>
    obtain ⟨comparison, hcomparison, h⟩ := Outcome.bind_eq_ok.1 h
    obtain ⟨others, hothers, h⟩ := Outcome.bind_eq_ok.1 h
    cases h
    rw [List.foldl_cons, applied_of_compare hcomparison, ih hothers, List.getLastD_cons]

/-- A comparison with a baseline, which may be any that has a set of identifiers, is made exactly if the
counts are near to those of the baseline, whatever the identifiers are. It gives what is resolved and
what is new, each in strictly increasing order, and replays the change from the one set of identifiers
to the other; the other way round the two are swapped. Runs in a row are all compared exactly if each is
near to the one before, and the comparisons then lead from the identifiers of the first run to those of
the last one. -/
theorem compared_replays (before after : Census) (rest : List Census) :
    ((∃ comparison, before.compare after = .ok comparison) ↔ after.metrics.Near before.metrics) ∧
    (∀ comparison, before.compare after = .ok comparison →
      comparison.Replays before.idSet after.idSet ∧
      ∀ back, after.compare before = .ok back →
        back.resolved = comparison.newIssues ∧ back.newIssues = comparison.resolved) ∧
    ((∃ comparisons, before.compareAll rest = .ok comparisons) ↔
      (before :: rest).IsChain fun before after => after.metrics.Near before.metrics) ∧
    ∀ comparisons, before.compareAll rest = .ok comparisons →
      comparisons.foldl Comparison.applied before.idSet = (rest.getLastD before).idSet :=
  ⟨exists_compare_iff, fun _ h => ⟨replays_of_compare h, fun _ hback => swapped_of_compare h hback⟩,
    exists_compareAll_iff before rest, fun _ => foldl_applied_of_compareAll⟩

def firstRun : Census := ⟨0, .empty, ["b", "a", "b"]⟩

def secondRun : Census := ⟨1, { Metrics.empty with byPriority := [(.low, 1)] }, ["c", "b", "c"]⟩

def thirdRun : Census := ⟨2, .empty, ["c"]⟩

/-- A finding is resolved and another one appears, then one more is resolved, and the way back. -/
theorem compared_replays_threeRuns :
    (∃ comparison back, firstRun.compare secondRun = .ok comparison ∧
      secondRun.compare firstRun = .ok back ∧
      comparison.Replays {"a", "b"} {"b", "c"} ∧ back.resolved = comparison.newIssues) ∧
    ∃ comparisons, firstRun.compareAll [secondRun, thirdRun] = .ok comparisons ∧
      comparisons.foldl Comparison.applied {"a", "b"} = {"c"} := by
  have hfirst : firstRun.metrics.Near secondRun.metrics := by
    intro priority
    cases priority <;> decide +kernel
  have hsecond : secondRun.metrics.Near firstRun.metrics := by
    intro priority
    cases priority <;> decide +kernel
  have hthird : thirdRun.metrics.Near secondRun.metrics := hfirst
  have hids : firstRun.idSet = {"a", "b"} ∧ secondRun.idSet = {"b", "c"} ∧ thirdRun.idSet = {"c"} := by
    decide
  obtain ⟨hexists, hreplays, hall, hlast⟩ := compared_replays firstRun secondRun [secondRun, thirdRun]
  obtain ⟨comparison, hcomparison⟩ := hexists.2 hsecond
  obtain ⟨back, hback⟩ := (compared_replays secondRun firstRun []).1.2 hfirst
  obtain ⟨hreplay, hswapped⟩ := hreplays comparison hcomparison
  obtain ⟨comparisons, hcomparisons⟩ :=
    hall.2 (.cons_cons hsecond (.cons_cons hthird (.singleton _)))
  have hfold := hlast comparisons hcomparisons
  rw [hids.1, hids.2.1] at hreplay
  rw [hids.1] at hfold
  exact ⟨⟨comparison, back, hcomparison, hback, hreplay, (hswapped back hback).1⟩, comparisons,
    hcomparisons, hfold.trans hids.2.2⟩

end Census
end KotlinAudit
