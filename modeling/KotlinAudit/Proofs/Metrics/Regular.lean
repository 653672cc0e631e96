import KotlinAudit.Proofs.Decimal.Nearest
import KotlinAudit.Proofs.Json.Rereading
import KotlinAudit.Proofs.Metrics.Measurable
import KotlinAudit.Proofs.Record.Checked

/-! Metrics that findings have: their numbers are finite, and no key is counted twice, so that they are read
from the record that they are written as. -/
namespace KotlinAudit

open Decimal (Binary64)

namespace Metrics

/-- The binary numbers of metrics. -/
def numbers (metrics : Metrics) : List Binary64 :=
  [metrics.averageComplexity, metrics.averageFunctionLength, metrics.averageClassLength,
    metrics.testCoverage, metrics.documentationCoverage]

/-- Metrics as they are computed. -/
structure Regular (metrics : Metrics) : Prop where
  finite : ∀ number ∈ metrics.numbers, number.isFinite = true ∧ number.Normal
  priorities : (metrics.byPriority.map Prod.fst).Nodup
  categories : (metrics.byCategory.map Prod.fst).Nodup

theorem fullCoverage_regular : fullCoverage.isFinite = true ∧ fullCoverage.Normal :=
  ⟨by decide, Binary64.normal_ofRat 100⟩

theorem empty_regular : Metrics.empty.Regular where
  finite := by
    intro number hnumber
    simp only [numbers, empty, List.mem_cons, List.not_mem_nil, or_false] at hnumber
    rcases hnumber with rfl | rfl | rfl | rfl | rfl
    · exact ⟨rfl, Binary64.normal_zero⟩
    · exact ⟨rfl, Binary64.normal_zero⟩
    · exact ⟨rfl, Binary64.normal_zero⟩
    · exact fullCoverage_regular
    · exact fullCoverage_regular
  priorities := List.nodup_nil
  categories := List.nodup_nil

/-- Coverage is a finite number: what is beyond a bound is the bound. -/
theorem coverage_regular (population uncovered : Nat) :
    (coverage population uncovered).isFinite = true ∧ (coverage population uncovered).Normal := by
  unfold coverage
  split_ifs with hnone
  · exact fullCoverage_regular
  · dsimp only
    have hnan : (Binary64.ofRat ((((population : Int) - uncovered : Int) : Rat) /
        (population : Rat))).mul (.ofRat 100) ≠ .nan :=
      Binary64.mul_ne_nan (Binary64.nearest_ne_nan _ _ _) (by decide) (by decide)
    have hnormal := Binary64.normal_mul (Binary64.ofRat ((((population : Int) - uncovered : Int) :
      Rat) / (population : Rat))) (.ofRat 100)
    generalize (Binary64.ofRat ((((population : Int) - uncovered : Int) : Rat) /
      (population : Rat))).mul (.ofRat 100) = share at *
    split_ifs with hlow hhigh
    · exact ⟨rfl, Binary64.normal_zero⟩
    · exact fullCoverage_regular
    · refine ⟨Binary64.isFinite_of_ne hnan ?_, hnormal⟩
      rintro negative rfl
      cases negative
      · exact hhigh (by decide)
      · exact hlow rfl

theorem average_regular {values : List Int} {mean : Binary64} (h : average values = .ok mean) :
    mean.isFinite = true ∧ mean.Normal := by
  rw [average_eq] at h
  split_ifs at h
  · cases h
    exact ⟨rfl, Binary64.normal_zero⟩
  · split at h
    · next found hfound =>
      cases h
      exact Binary64.isFinite_of_ofRat? hfound
    · cases h

theorem averageOf_regular {pattern : Pattern} {words : List String} {findings : List Finding}
    {mean : Binary64} (h : averageOf pattern words findings = .ok mean) :
    mean.isFinite = true ∧ mean.Normal := by
  obtain ⟨numbers, -, hmean⟩ := Outcome.bind_eq_ok.1 h
  exact average_regular hmean

theorem map_fst_tally {κ : Type} [BEq κ] (keys : List κ) (key : Finding → κ)
    (findings : List Finding) : (tally keys key findings).map Prod.fst = keys := by
  rw [tally, List.map_map]
  exact List.map_id _

/-- The count of a key is the number of findings that have it. -/
theorem get_tally {κ : Type} [BEq κ] [LawfulBEq κ] {keys : List κ} {each : κ} (h : each ∈ keys)
    (key : Finding → κ) (findings : List Finding) :
    (tally keys key findings).get each = (findings.countP (key · == each) : Nat) := by
  rw [Counts.get, tally, Keyed.lookup_map_pair, if_pos (List.contains_iff_mem.2 h), Option.getD_some]

theorem byPriority_get {findings : List Finding} {metrics : Metrics}
    (h : ofFindings findings = .ok metrics) (priority : Priority) :
    metrics.byPriority.get priority = (findings.countP (·.priority == priority) : Nat) := by
  obtain ⟨complexity, -, h⟩ := Outcome.bind_eq_ok.1 h
  obtain ⟨functionLength, -, h⟩ := Outcome.bind_eq_ok.1 h
  obtain ⟨classLength, -, h⟩ := Outcome.bind_eq_ok.1 h
  cases h
  exact get_tally (by cases priority <;> decide) _ _

/-- Metrics of findings are regular. -/
theorem regular_of_ofFindings {findings : List Finding} {metrics : Metrics}
    (h : Metrics.ofFindings findings = .ok metrics) : metrics.Regular := by
  obtain ⟨complexity, hcomplexity, h⟩ := Outcome.bind_eq_ok.1 h
  obtain ⟨functionLength, hfunction, h⟩ := Outcome.bind_eq_ok.1 h
  obtain ⟨classLength, hclass, h⟩ := Outcome.bind_eq_ok.1 h
  cases h
  refine ⟨?_, ?_, ?_⟩
  · intro number hnumber
    simp only [numbers, List.mem_cons, List.not_mem_nil, or_false] at hnumber
    rcases hnumber with rfl | rfl | rfl | rfl | rfl
    · exact averageOf_regular hcomplexity
    · exact averageOf_regular hfunction
    · exact averageOf_regular hclass
    · exact coverage_regular _ _
    · exact coverage_regular _ _
  · rw [map_fst_tally]
    decide
  · rw [map_fst_tally]
    decide

end Metrics

open Json (Every EveryField)

theorem Priority.ofName?_name (priority : Priority) :
    Priority.ofName? priority.name = some priority := by
  cases priority <;> decide

theorem Category.ofName?_name (category : Category) :
    Category.ofName? category.name = some category := by
  cases category <;> decide

namespace Metrics

theorem value?_countsJson {κ : Type} [DecidableEq κ] {key : String → Option κ} {name : κ → String}
    {counts : Counts κ} (hkeys : (counts.map Prod.fst).Nodup)
    (hname : ∀ each, key (name each) = some each) :
    (Record.mapping key Record.int (countsJson name counts)).value? = some counts :=
  Record.value?_mapping name .int hkeys (fun pair _ => hname pair.1) fun _ _ => rfl

/-- Metrics are read from their record. -/
theorem value?_readWith {metrics : Metrics} (h : metrics.Regular) :
    (Metrics.readWith Record.storedFloat metrics.toJson).value? = some metrics := by
  unfold Metrics.readWith Metrics.toJson
  rw [Record.value?_fields (by simp)]
  simp [List.lookup_cons, value?_countsJson h.priorities Priority.ofName?_name,
    value?_countsJson h.categories Category.ofName?_name, Record.int, Record.storedFloat,
    Record.float]

theorem depth_countsJson {κ : Type} (name : κ → String) (counts : Counts κ) :
    Json.depth (countsJson name counts) ≤ 1 := by
  rw [countsJson, Json.depth, Nat.succ_le_succ_iff]
  refine Json.depthFields_le fun field hfield => ?_
  obtain ⟨pair, -, rfl⟩ := List.mem_map.1 hfield
  exact Nat.zero_le _

theorem depth_toJson (metrics : Metrics) : Json.depth metrics.toJson ≤ 2 := by
  rw [toJson, Json.depth, Nat.succ_le_succ_iff]
  refine Json.depthFields_le ?_
  simp only [List.forall_mem_cons]
  exact ⟨Nat.zero_le _, Nat.zero_le _, depth_countsJson _ _, depth_countsJson _ _, Nat.zero_le _,
    Nat.zero_le _, Nat.zero_le _, Nat.zero_le _, Nat.zero_le _, nofun⟩

/-- The integers of metrics. -/
def integers (metrics : Metrics) : List Int :=
  metrics.totalFiles :: metrics.totalFindings ::
    (metrics.byPriority.map Prod.snd ++ metrics.byCategory.map Prod.snd)

theorem every_countsJson {κ : Type} {holds : Json → Prop} {name : κ → String}
    {counts : Counts κ} (hname : ∀ each, holds (.text (name each))) :
    Every holds (countsJson name counts) ↔ ∀ count ∈ counts.map Prod.snd, holds (.int count) := by
  rw [countsJson, Every, Json.everyField_iff, List.forall_mem_map, List.forall_mem_map]
  exact forall₂_congr fun pair _ => ⟨fun h => h.2, fun h => ⟨hname pair.1, h⟩⟩

/-- Something holds of every part of metrics when it does of the keys and the numbers. -/
theorem every_toJson {holds : Json → Prop} {metrics : Metrics}
    (hkeys : ∀ key ∈ ["total_files", "total_findings", "findings_by_priority",
      "findings_by_category", "average_complexity", "average_function_length",
      "average_class_length", "test_coverage_percentage", "documentation_coverage_percentage"] ++
        Priority.all.map Priority.name ++ Category.all.map Category.name, holds (.text key)) :
    Every holds metrics.toJson ↔ (∀ value ∈ metrics.integers, holds (.int value)) ∧
      ∀ value ∈ metrics.numbers, holds (.float value) := by
  have hpriority : ∀ each : Priority, holds (.text each.name) := by
    intro each
    refine hkeys _ (List.mem_append_left _ (List.mem_append_right _ (List.mem_map_of_mem ?_)))
    cases each <;> decide
  have hcategory : ∀ each : Category, holds (.text each.name) := by
    intro each
    refine hkeys _ (List.mem_append_right _ (List.mem_map_of_mem ?_))
    cases each <;> decide
  simp only [List.forall_mem_append, List.forall_mem_cons] at hkeys
  obtain ⟨⟨⟨h₁, h₂, h₃, h₄, h₅, h₆, h₇, h₈, h₉, -⟩, -⟩, -⟩ := hkeys
  simp only [Metrics.toJson, Every, EveryField, every_countsJson hpriority,
    every_countsJson hcategory, integers, numbers, List.forall_mem_cons, List.forall_mem_append,
    h₁, h₂, h₃, h₄, h₅, h₆, h₇, h₈, h₉, true_and, and_true, and_assoc]
  simp only [List.not_mem_nil, false_implies, implies_true, and_true]

end Metrics

end KotlinAudit
