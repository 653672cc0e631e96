import KotlinAudit.Metrics.Estimate
import KotlinAudit.Proofs.Decimal.Nearest
import KotlinAudit.Proofs.Keyed
import KotlinAudit.Proofs.Outcome
import Mathlib.Data.Finset.Card
import Mathlib.Tactic.FieldSimp
import Mathlib.Tactic.Linarith
import Mathlib.Tactic.Positivity

/-! Coverage in exact arithmetic. It is the share of places without a gap, but gaps are counted one by one
and places once, so that there can be more gaps than places. All the same a further gap never makes coverage
better, and a further finding of another kind never makes it worse. -/
namespace KotlinAudit

open Decimal (Arithmetic Binary64)

namespace Metrics

/-- The covered share in percent, between zero and one hundred; an empty population is covered. -/
def coverageIn {α : Type} (arithmetic : Arithmetic α) (population uncovered : Nat) : α :=
  let full := arithmetic.ofRat 100
  if population = 0 then full
  else
    let covered : Int := (population : Int) - uncovered
    let share := arithmetic.mul (arithmetic.ofRat ((covered : Rat) / (population : Rat))) full
    if arithmetic.lt share (arithmetic.ofRat 0) then arithmetic.ofRat 0
    else if arithmetic.lt full share then full
    else share

theorem coverageIn_binary (population uncovered : Nat) :
    coverageIn .binary population uncovered = coverage population uncovered := rfl

/-- Exactly computed, a share is cut off at zero only. -/
theorem coverageIn_rational (population uncovered : Nat) :
    coverageIn .rational population uncovered =
      max 0 (100 - 100 * ((uncovered : ℚ) / (population : ℚ))) := by
  have hgap : (0 : ℚ) ≤ (uncovered : ℚ) / population := by positivity
  unfold coverageIn
  split_ifs with hnone
  · subst hnone
    simp [Arithmetic.rational]
  · have hpopulation : (population : ℚ) ≠ 0 := by exact_mod_cast hnone
    have hshare : (((population : Int) - (uncovered : Int) : Int) : ℚ) / population * 100 =
        100 - 100 * ((uncovered : ℚ) / population) := by
      push_cast
      field_simp
    simp only [Arithmetic.rational, id, decide_eq_true_eq, hshare]
    split_ifs with hlow hhigh
    · exact (max_eq_left hlow.le).symm
    · linarith
    · exact (max_eq_right (not_lt.1 hlow)).symm

section Exact

variable {population uncovered : Nat}

theorem coverageIn_rational_mem_Icc (population uncovered : Nat) :
    coverageIn .rational population uncovered ∈ Set.Icc (0 : ℚ) 100 := by
  have hgap : (0 : ℚ) ≤ (uncovered : ℚ) / population := by positivity
  rw [coverageIn_rational]
  refine ⟨le_max_left _ _, max_le (by norm_num) ?_⟩
  linarith

/-- All is covered if nothing is uncovered, where what is uncovered belongs to the population. -/
theorem coverageIn_rational_eq_full_iff (h : population = 0 → uncovered = 0) :
    coverageIn .rational population uncovered = 100 ↔ uncovered = 0 := by
  rw [coverageIn_rational]
  constructor
  · intro hfull
    by_contra hgap
    have hpopulation : (0 : ℚ) < population := by
      exact_mod_cast Nat.pos_of_ne_zero fun hnone => hgap (h hnone)
    have hshare : (0 : ℚ) < (uncovered : ℚ) / population := by
      have huncovered : (0 : ℚ) < uncovered := by exact_mod_cast Nat.pos_of_ne_zero hgap
      positivity
    have hless : max 0 (100 - 100 * ((uncovered : ℚ) / population)) < 100 :=
      max_lt (by norm_num) (by linarith)
    exact hless.ne hfull
  · rintro rfl
    norm_num

/-- A greater population with the same gaps is covered better. -/
theorem coverageIn_rational_le_of_population_le {greater : Nat} (h : population = 0 → uncovered = 0)
    (hle : population ≤ greater) :
    coverageIn .rational population uncovered ≤ coverageIn .rational greater uncovered := by
  rw [coverageIn_rational, coverageIn_rational]
  have hshare : (uncovered : ℚ) / greater ≤ (uncovered : ℚ) / population := by
    rcases Nat.eq_zero_or_pos population with hnone | hpos
    · simp [h hnone]
    · gcongr
  exact max_le_max_left 0 (by linarith)

/-- One more gap in the same population. -/
theorem coverageIn_rational_succ_le (population uncovered : Nat) :
    coverageIn .rational population (uncovered + 1) ≤ coverageIn .rational population uncovered := by
  rw [coverageIn_rational, coverageIn_rational]
  have hshare : (uncovered : ℚ) / population ≤ ((uncovered + 1 : Nat) : ℚ) / population := by
    gcongr
    omega
  exact max_le_max_left 0 (by linarith)

/-- One more gap that enlarges the population. Where there are more gaps than places the share of gaps
shrinks, but nothing is covered before and after. -/
theorem coverageIn_rational_succ_succ_le (population uncovered : Nat) :
    coverageIn .rational (population + 1) (uncovered + 1) ≤
      coverageIn .rational population uncovered := by
  rw [coverageIn_rational, coverageIn_rational]
  have hpos : (0 : ℚ) < ((population + 1 : Nat) : ℚ) := by positivity
  rcases le_or_gt uncovered population with hfew | hmany
  · have hshare : (uncovered : ℚ) / population ≤
        ((uncovered + 1 : Nat) : ℚ) / (population + 1 : Nat) := by
      rcases Nat.eq_zero_or_pos population with hnone | hpopulation
      · have : (0 : ℚ) ≤ ((uncovered + 1 : Nat) : ℚ) / (population + 1 : Nat) := by positivity
        simpa [hnone] using this
      · rw [div_le_div_iff₀ (by exact_mod_cast hpopulation) hpos]
        have hcross : uncovered * (population + 1) ≤ (uncovered + 1) * population := by
          rw [Nat.mul_succ, Nat.succ_mul]
          omega
        exact_mod_cast hcross
    exact max_le_max_left 0 (by linarith)
  · have hshare : (1 : ℚ) ≤ ((uncovered + 1 : Nat) : ℚ) / (population + 1 : Nat) := by
      rw [le_div_iff₀ hpos, one_mul]
      exact_mod_cast Nat.succ_le_succ hmany.le
    exact max_le (le_max_left _ _) (le_max_of_le_left (by linarith))

end Exact
end Metrics

/-- What a coverage goes by: the category of the findings that each tell of a gap, the places that are
counted, and the other findings whose places are to be covered too. -/
structure Survey where
  category : Category
  asks : Finding → Bool
  place : Finding → String

namespace Survey

/-- Files lack tests; components should have some. -/
def tests : Survey where
  category := .testCoverage
  asks finding := Metrics.componentMarkers.any fun marker =>
    Text.contains marker.toList finding.fileName
  place finding := finding.file

/-- Lines lack documentation; what is public should have some. -/
def documentation : Survey where
  category := .documentation
  asks finding := Text.contains "public".toList (Text.lower finding.description.toList)
  place finding :=
    let line := finding.line
    finding.file ++ s!":{line}"

variable (survey : Survey)

def counts (finding : Finding) : Bool :=
  finding.category == survey.category || survey.asks finding

/-- The places to be covered. -/
def population (findings : List Finding) : Finset String :=
  ((findings.filter survey.counts).map survey.place).toFinset

/-- How many gaps are told of. -/
def gaps (findings : List Finding) : Nat := findings.countP (·.category == survey.category)

def coverage {α : Type} (arithmetic : Arithmetic α) (findings : List Finding) : α :=
  Metrics.coverageIn arithmetic (survey.population findings).card (survey.gaps findings)

theorem length_eraseDups_eq_card (texts : List String) :
    texts.eraseDups.length = texts.toFinset.card := by
  rw [← List.toFinset_card_of_nodup (Repeats.nodup_eraseDups texts)]
  congr 1
  ext text
  simp

theorem coverage_tests (findings : List Finding) :
    tests.coverage .binary findings = Metrics.estimatedTestCoverage findings := by
  have hsame : (tests.population findings) =
      ((findings.filter (·.category == .testCoverage) ++ findings.filter tests.asks).map
        (·.file)).toFinset := by
    ext text
    simp only [population, counts, tests, List.mem_toFinset, List.mem_map, List.mem_append,
      List.mem_filter, Bool.or_eq_true, and_or_left]
  rw [coverage, Metrics.coverageIn_binary, hsame, ← length_eraseDups_eq_card, gaps,
    List.countP_eq_length_filter]
  rfl

theorem coverage_documentation (findings : List Finding) :
    documentation.coverage .binary findings = Metrics.estimatedDocumentationCoverage findings := by
  rw [coverage, Metrics.coverageIn_binary, population, ← length_eraseDups_eq_card, gaps,
    List.countP_eq_length_filter]
  rfl

/-- The coverages of metrics that could be computed. -/
theorem coverage_ofFindings {findings : List Finding} {metrics : Metrics}
    (h : Metrics.ofFindings findings = .ok metrics) :
    metrics.testCoverage = tests.coverage .binary findings ∧
      metrics.documentationCoverage = documentation.coverage .binary findings := by
  unfold Metrics.ofFindings at h
  obtain ⟨complexity, -, h⟩ := Outcome.bind_eq_ok.1 h
  obtain ⟨functionLength, -, h⟩ := Outcome.bind_eq_ok.1 h
  obtain ⟨classLength, -, h⟩ := Outcome.bind_eq_ok.1 h
  cases h
  exact ⟨(coverage_tests findings).symm, (coverage_documentation findings).symm⟩

/-! ### One finding more -/

variable (front back : List Finding) (finding : Finding)

theorem gaps_insert : survey.gaps (front ++ finding :: back) =
    survey.gaps (front ++ back) + if finding.category = survey.category then 1 else 0 := by
  simp only [gaps, List.countP_append, List.countP_cons, beq_iff_eq]
  omega

theorem population_insert : survey.population (front ++ finding :: back) =
    if survey.counts finding then insert (survey.place finding) (survey.population (front ++ back))
    else survey.population (front ++ back) := by
  split_ifs with hcounts
  · ext place
    simp only [population, List.filter_append, List.filter_cons_of_pos hcounts, List.map_append,
      List.map_cons, List.toFinset_append, List.toFinset_cons, Finset.mem_union, Finset.mem_insert]
    tauto
  · rw [population, List.filter_append, List.filter_cons_of_neg hcounts, ← List.filter_append,
      population]

variable {front back finding}

/-- Where there is a gap there is a place. -/
theorem gaps_eq_zero_of_population {findings : List Finding}
    (h : (survey.population findings).card = 0) : survey.gaps findings = 0 := by
  rw [Finset.card_eq_zero] at h
  rw [gaps, List.countP_eq_zero]
  intro finding hfinding hcategory
  have hcounts : survey.counts finding = true := by rw [counts, hcategory, Bool.true_or]
  have hplace : survey.place finding ∈ survey.population findings := by
    rw [population, List.mem_toFinset]
    exact List.mem_map_of_mem (List.mem_filter.2 ⟨hfinding, hcounts⟩)
  rw [h] at hplace
  exact Finset.notMem_empty _ hplace

/-- A further gap never makes the coverage better. -/
theorem coverage_insert_le (h : finding.category = survey.category) :
    survey.coverage .rational (front ++ finding :: back) ≤
      survey.coverage .rational (front ++ back) := by
  have hcounts : survey.counts finding = true := by simp [counts, h]
  rw [coverage, gaps_insert, if_pos h, population_insert, if_pos hcounts, coverage]
  by_cases hknown : survey.place finding ∈ survey.population (front ++ back)
  · rw [Finset.insert_eq_of_mem hknown]
    exact Metrics.coverageIn_rational_succ_le _ _
  · rw [Finset.card_insert_of_notMem hknown]
    exact Metrics.coverageIn_rational_succ_succ_le _ _

/-- A further finding that tells of no gap never makes the coverage worse. -/
theorem le_coverage_insert (h : finding.category ≠ survey.category) :
    survey.coverage .rational (front ++ back) ≤
      survey.coverage .rational (front ++ finding :: back) := by
  rw [coverage, coverage, gaps_insert, if_neg h, Nat.add_zero]
  refine Metrics.coverageIn_rational_le_of_population_le survey.gaps_eq_zero_of_population
    (Finset.card_le_card ?_)
  rw [population_insert]
  split_ifs
  · exact Finset.subset_insert _ _
  · exact Finset.Subset.refl _

/-- The coverages of metrics are computed by one rule, in binary numbers. Computed exactly, it gives a
share in percent, all of it exactly without gaps; with one finding more anywhere in a list it gives no more
if that is a gap, and no less if it is none. -/
theorem coverage_exactly (findings : List Finding) :
    (Metrics.estimatedTestCoverage findings = tests.coverage .binary findings ∧
      Metrics.estimatedDocumentationCoverage findings = documentation.coverage .binary findings) ∧
    (∀ metrics, Metrics.ofFindings findings = .ok metrics →
      metrics.testCoverage = tests.coverage .binary findings ∧
        metrics.documentationCoverage = documentation.coverage .binary findings) ∧
    ∀ survey : Survey,
      survey.coverage .rational findings ∈ Set.Icc (0 : ℚ) 100 ∧
      (survey.coverage .rational findings = 100 ↔
        ∀ finding ∈ findings, finding.category ≠ survey.category) ∧
      ∀ front back finding, findings = front ++ back →
        (finding.category = survey.category →
          survey.coverage .rational (front ++ finding :: back) ≤
            survey.coverage .rational findings) ∧
        (finding.category ≠ survey.category →
          survey.coverage .rational findings ≤
            survey.coverage .rational (front ++ finding :: back)) := by
  refine ⟨⟨(coverage_tests findings).symm, (coverage_documentation findings).symm⟩,
    fun metrics => coverage_ofFindings, fun survey => ?_⟩
  refine ⟨Metrics.coverageIn_rational_mem_Icc _ _, ?_, ?_⟩
  · rw [coverage, Metrics.coverageIn_rational_eq_full_iff survey.gaps_eq_zero_of_population, gaps,
      List.countP_eq_zero]
    simp
  · rintro front back finding rfl
    exact ⟨survey.coverage_insert_le, survey.le_coverage_insert⟩

/-- A component without tests. -/
def untested : Finding :=
  { (default : Finding) with category := .testCoverage, file := "data/MealRepository.kt" }

/-- Another component, which something else is found in. -/
def component : Finding :=
  { (default : Finding) with category := .naming, file := "ui/MealViewModel.kt" }

/-- The other component makes the coverage better, and a second gap in the first one makes it worse. -/
theorem coverage_exactly_component :
    tests.coverage .rational [untested] ≤ tests.coverage .rational [untested, component] ∧
    tests.coverage .rational [untested, component] = 50 ∧
    tests.coverage .rational [untested, untested, component] ≤
      tests.coverage .rational [untested, component] := by
  obtain ⟨-, -, hbetter⟩ := (coverage_exactly [untested]).2.2 tests
  obtain ⟨-, -, hworse⟩ := (coverage_exactly [untested, component]).2.2 tests
  refine ⟨(hbetter [untested] [] component rfl).2 (by decide), ?_,
    (hworse [untested] [component] untested rfl).1 rfl⟩
  have hplaces : (tests.population [untested, component]).card = 2 := by decide
  have hgaps : tests.gaps [untested, component] = 1 := by decide
  rw [coverage, hplaces, hgaps, Metrics.coverageIn_rational]
  norm_num

end Survey
end KotlinAudit
