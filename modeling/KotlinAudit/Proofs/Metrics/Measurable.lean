import KotlinAudit.Metrics.Estimate
import KotlinAudit.Proofs.Decimal.Nearest
import KotlinAudit.Proofs.Decimal.Numeral
import KotlinAudit.Proofs.Outcome
import Mathlib.Algebra.Field.Rat

/-! When metrics can be computed. The averages are those of numbers read off the texts of findings;
such a number may have too many digits, and the mean of such numbers may be beyond the largest
binary number. All numbers of an average are read before they are added up, so a number that is too long comes
before a mean that is too large; the averages are taken one after the other, and the first one that fails is the
reason. -/
namespace KotlinAudit

open Decimal (Binary64)

/-- The digits of the number that a pattern finds first in a text. -/
def digitsIn? (pattern : Pattern) (text : List Char) : Option (List Char) :=
  (pattern.search? text).map fun found => ((found.group? 1).or (found.group? 2)).getD []

theorem numberIn_eq_ok {pattern : Pattern} {text : List Char} {number : Option Int} :
    numberIn pattern text = .ok number ↔
      (∀ digits, digitsIn? pattern text = some digits → digits.length ≤ Decimal.maxDigits) ∧
        number = (digitsIn? pattern text).map fun digits => (Decimal.natOfDigits digits : Int) := by
  unfold numberIn digitsIn?
  cases pattern.search? text with
  | none => simp [eq_comm]
  | some found =>
    simp only [Option.map_some, Option.some.injEq, forall_eq']
    generalize ((found.group? 1).or (found.group? 2)).getD [] = digits
    by_cases h : Decimal.maxDigits < digits.length
    · simp [h, Nat.not_le_of_lt h]
    · simp [h, Nat.le_of_not_lt h, eq_comm]

namespace Metrics

/-- The code smells whose titles mention some words. -/
def smells (words : List String) (findings : List Finding) : List Finding :=
  findings.filter fun finding => finding.category == .codeSmell && words.all finding.titleMentions

/-- The digits of all numbers that an average is made of. -/
def scraped (pattern : Pattern) (words : List String) (findings : List Finding) :
    List (List Char) :=
  (smells words findings).filterMap fun finding => digitsIn? pattern finding.statement

def values (numbers : List (List Char)) : List Int :=
  numbers.map fun digits => (Decimal.natOfDigits digits : Int)

/-- Numbers that are short enough to be read and whose mean is not beyond the largest binary
number. -/
structure HasMean (numbers : List (List Char)) : Prop where
  short : ∀ digits ∈ numbers, digits.length ≤ Decimal.maxDigits
  small : numbers ≠ [] →
    (Binary64.ofRat? (((values numbers).sum : Rat) / (numbers.length : Rat))).isSome

/-- Findings whose texts give an average complexity, function length and class length. -/
structure Measurable (findings : List Finding) : Prop where
  complexity : HasMean (scraped complexityPattern ["complexity"] findings)
  functionLength : HasMean (scraped lengthPattern ["function", "long"] findings)
  classLength : HasMean (scraped lengthPattern ["class", "large"] findings)

theorem average_eq (numbers : List Int) :
    average numbers = if numbers.isEmpty then .ok .zero
      else match Binary64.ofRat? ((numbers.sum : Rat) / (numbers.length : Rat)) with
        | some mean => .ok mean
        | none => .error .tooLarge := by
  rw [List.sum_eq_foldl]
  rfl

theorem exists_average_iff {numbers : List Int} :
    (∃ mean, average numbers = .ok mean) ↔
      (numbers ≠ [] → (Binary64.ofRat? ((numbers.sum : Rat) / (numbers.length : Rat))).isSome) := by
  rw [average_eq]
  by_cases h : numbers = []
  · simp [h]
  · rw [if_neg (by simpa using h)]
    cases Binary64.ofRat? ((numbers.sum : Rat) / (numbers.length : Rat)) with
    | none => simp [h]
    | some mean => simp

theorem mem_scraped {pattern : Pattern} {words : List String} {findings : List Finding}
    {digits : List Char} : digits ∈ scraped pattern words findings ↔
      ∃ finding ∈ smells words findings, digitsIn? pattern finding.statement = some digits := by
  simp [scraped]

/-- Where all numbers are short enough, an average is the mean of them. -/
theorem averageOf_of_short {pattern : Pattern} {words : List String} {findings : List Finding}
    (h : ∀ digits ∈ scraped pattern words findings, digits.length ≤ Decimal.maxDigits) :
    averageOf pattern words findings = average (values (scraped pattern words findings)) := by
  have hall : ∀ finding ∈ smells words findings, numberIn pattern finding.statement =
      .ok ((digitsIn? pattern finding.statement).map fun digits =>
        (Decimal.natOfDigits digits : Int)) := by
    intro finding hfinding
    rw [numberIn_eq_ok]
    exact ⟨fun digits hd => h digits (mem_scraped.2 ⟨finding, hfinding, hd⟩), rfl⟩
  change (smells words findings).mapM _ >>= _ = _
  rw [Outcome.mapM_of_forall hall]
  change average _ = _
  rw [values, scraped, List.filterMap_map, List.map_filterMap]
  rfl

theorem short_of_averageOf {pattern : Pattern} {words : List String} {findings : List Finding}
    {mean : Binary64} (h : averageOf pattern words findings = .ok mean) :
    ∀ digits ∈ scraped pattern words findings, digits.length ≤ Decimal.maxDigits := by
  intro digits hdigits
  obtain ⟨finding, hfinding, hd⟩ := mem_scraped.1 hdigits
  obtain ⟨numbers, hnumbers, -⟩ := Outcome.bind_eq_ok.1 h
  obtain ⟨number, hnumber⟩ := Outcome.exists_of_mapM hnumbers finding hfinding
  exact (numberIn_eq_ok.1 hnumber).1 digits hd

theorem exists_averageOf_iff {pattern : Pattern} {words : List String} {findings : List Finding} :
    (∃ mean, averageOf pattern words findings = .ok mean) ↔
      HasMean (scraped pattern words findings) := by
  have hmean : (∃ mean, average (values (scraped pattern words findings)) = .ok mean) ↔
      (scraped pattern words findings ≠ [] →
        (Binary64.ofRat? (((values (scraped pattern words findings)).sum : Rat) /
          ((scraped pattern words findings).length : Rat))).isSome) := by
    rw [exists_average_iff]
    simp [values]
  constructor
  · rintro ⟨mean, h⟩
    have hshort := short_of_averageOf h
    rw [averageOf_of_short hshort] at h
    exact ⟨hshort, hmean.1 ⟨mean, h⟩⟩
  · rintro ⟨hshort, hsmall⟩
    rw [averageOf_of_short hshort]
    exact hmean.2 hsmall

/-- Metrics can be computed exactly of measurable findings. -/
theorem exists_ofFindings_iff {findings : List Finding} :
    (∃ metrics, Metrics.ofFindings findings = .ok metrics) ↔ Measurable findings := by
  constructor
  · rintro ⟨metrics, h⟩
    obtain ⟨complexity, hc, h⟩ := Outcome.bind_eq_ok.1 h
    obtain ⟨functionLength, hf, h⟩ := Outcome.bind_eq_ok.1 h
    obtain ⟨classLength, hl, -⟩ := Outcome.bind_eq_ok.1 h
    exact ⟨exists_averageOf_iff.1 ⟨_, hc⟩, exists_averageOf_iff.1 ⟨_, hf⟩,
      exists_averageOf_iff.1 ⟨_, hl⟩⟩
  · rintro ⟨hcomplexity, hfunction, hclass⟩
    obtain ⟨complexity, hc⟩ := exists_averageOf_iff.2 hcomplexity
    obtain ⟨functionLength, hf⟩ := exists_averageOf_iff.2 hfunction
    obtain ⟨classLength, hl⟩ := exists_averageOf_iff.2 hclass
    refine ⟨_, Outcome.bind_eq_ok.2 ⟨complexity, hc, Outcome.bind_eq_ok.2 ⟨functionLength, hf,
      Outcome.bind_eq_ok.2 ⟨classLength, hl, rfl⟩⟩⟩⟩

/-! ### The averages themselves -/

/-- The mean of some numbers in exact arithmetic as the nearest binary number, zero where there are none. -/
def IsMean (numbers : List Int) (mean : Binary64) : Prop :=
  if numbers = [] then mean = .zero
  else Binary64.ofRat? ((numbers.sum : Rat) / (numbers.length : Rat)) = some mean

instance (numbers : List Int) (mean : Binary64) : Decidable (IsMean numbers mean) :=
  inferInstanceAs (Decidable (if numbers = [] then mean = .zero
    else Binary64.ofRat? ((numbers.sum : Rat) / (numbers.length : Rat)) = some mean))

theorem average_eq_ok {numbers : List Int} {mean : Binary64} :
    average numbers = .ok mean ↔ IsMean numbers mean := by
  rw [average_eq, IsMean]
  by_cases hnone : numbers = []
  · rw [if_pos (List.isEmpty_iff.2 hnone), if_pos hnone, Except.ok.injEq, eq_comm]
  · rw [if_neg (by rwa [List.isEmpty_iff]), if_neg hnone]
    cases Binary64.ofRat? ((numbers.sum : Rat) / (numbers.length : Rat)) with
    | none => exact iff_of_false nofun nofun
    | some found => rw [Except.ok.injEq, Option.some_inj]

theorem averageOf_eq_ok {pattern : Pattern} {words : List String} {findings : List Finding}
    {mean : Binary64} : averageOf pattern words findings = .ok mean ↔
      (∀ digits ∈ scraped pattern words findings, digits.length ≤ Decimal.maxDigits) ∧
        IsMean (values (scraped pattern words findings)) mean := by
  constructor
  · intro h
    have hshort := short_of_averageOf h
    rw [averageOf_of_short hshort] at h
    exact ⟨hshort, average_eq_ok.1 h⟩
  · rintro ⟨hshort, hmean⟩
    rw [averageOf_of_short hshort]
    exact average_eq_ok.2 hmean

/-- The averages of metrics that can be computed. -/
theorem exists_ofFindings_averages_iff {findings : List Finding}
    {complexity functionLength classLength : Binary64} :
    (∃ metrics, ofFindings findings = .ok metrics ∧ metrics.averageComplexity = complexity ∧
      metrics.averageFunctionLength = functionLength ∧ metrics.averageClassLength = classLength) ↔
      averageOf complexityPattern ["complexity"] findings = .ok complexity ∧
        averageOf lengthPattern ["function", "long"] findings = .ok functionLength ∧
        averageOf lengthPattern ["class", "large"] findings = .ok classLength := by
  constructor
  · rintro ⟨metrics, h, rfl, rfl, rfl⟩
    obtain ⟨complexity, hcomplexity, h⟩ := Outcome.bind_eq_ok.1 h
    obtain ⟨functionLength, hfunction, h⟩ := Outcome.bind_eq_ok.1 h
    obtain ⟨classLength, hclass, h⟩ := Outcome.bind_eq_ok.1 h
    cases h
    exact ⟨hcomplexity, hfunction, hclass⟩
  · rintro ⟨hcomplexity, hfunction, hclass⟩
    exact ⟨_, Outcome.bind_eq_ok.2 ⟨complexity, hcomplexity, Outcome.bind_eq_ok.2 ⟨functionLength, hfunction,
      Outcome.bind_eq_ok.2 ⟨classLength, hclass, rfl⟩⟩⟩, rfl, rfl, rfl⟩

/-! ### What keeps metrics from being computed -/

def total (numbers : List (List Char)) : Nat := (numbers.map Decimal.natOfDigits).sum

/-- Why some numbers have no mean. -/
def fault? (numbers : List (List Char)) : Option MetricsError :=
  if numbers.any (Decimal.maxDigits < ·.length) then some .tooManyDigits
  else if numbers ≠ [] ∧ Binary64.overflow * numbers.length ≤ total numbers then some .tooLarge
  else none

/-- Why metrics of some findings cannot be computed. -/
def faultIn? (findings : List Finding) : Option MetricsError :=
  (fault? (scraped complexityPattern ["complexity"] findings)).or <|
    (fault? (scraped lengthPattern ["function", "long"] findings)).or <|
      fault? (scraped lengthPattern ["class", "large"] findings)

theorem sum_values (numbers : List (List Char)) :
    ((values numbers).sum : Rat) = (total numbers : Rat) := by
  have hcast : (values numbers).sum = (total numbers : Int) := by
    induction numbers with
    | nil => rfl
    | cons digits rest ih =>
      rw [total, List.map_cons, List.sum_cons, ← total, Nat.cast_add, ← ih]
      rfl
  rw [hcast]
  exact Int.cast_natCast _

theorem failure?_average (numbers : List (List Char)) : Outcome.failure? (average (values numbers)) =
    if numbers ≠ [] ∧ Binary64.overflow * numbers.length ≤ total numbers then some .tooLarge
    else none := by
  rw [average_eq, values, List.isEmpty_map, List.length_map, ← values, sum_values]
  by_cases hnone : numbers = []
  · subst hnone
    rfl
  have hmean := Binary64.isSome_ofRat?_div_iff (total numbers) (List.length_pos_iff.2 hnone)
  rw [if_neg (by simpa using hnone)]
  cases hnumber : Binary64.ofRat? ((total numbers : Rat) / (numbers.length : Rat)) with
  | none =>
    rw [hnumber] at hmean
    rw [if_pos ⟨hnone, not_lt.1 (mt hmean.2 nofun)⟩]
    rfl
  | some mean =>
    rw [hnumber] at hmean
    rw [if_neg fun h => not_lt.2 h.2 (hmean.1 rfl)]
    rfl

/-- The only thing that can be wrong with a number is its length. -/
theorem eq_tooManyDigits_of_numberIn {pattern : Pattern} {text : List Char} {failure : MetricsError}
    (h : numberIn pattern text = .error failure) : failure = .tooManyDigits := by
  unfold numberIn at h
  cases hfound : pattern.search? text with
  | none =>
    rw [hfound] at h
    cases h
  | some found =>
    rw [hfound] at h
    dsimp only at h
    split_ifs at h
    cases h
    rfl

theorem failure?_averageOf (pattern : Pattern) (words : List String) (findings : List Finding) :
    Outcome.failure? (averageOf pattern words findings) =
      fault? (scraped pattern words findings) := by
  unfold fault?
  by_cases hlong : (scraped pattern words findings).any (Decimal.maxDigits < ·.length) = true
  · rw [if_pos hlong]
    obtain ⟨digits, hdigits, hlength⟩ := List.any_eq_true.1 hlong
    have hfails : ¬∃ numbers,
        (smells words findings).mapM (fun finding => numberIn pattern finding.statement) =
          .ok numbers := by
      rintro ⟨numbers, hnumbers⟩
      obtain ⟨finding, hfinding, hscraped⟩ := mem_scraped.1 hdigits
      obtain ⟨number, hnumber⟩ := Outcome.exists_of_mapM hnumbers finding hfinding
      exact not_lt.2 ((numberIn_eq_ok.1 hnumber).1 digits hscraped) (of_decide_eq_true hlength)
    cases hread : (smells words findings).mapM
        (fun finding => numberIn pattern finding.statement) with
    | ok numbers => exact absurd ⟨numbers, hread⟩ hfails
    | error failure =>
      obtain ⟨finding, -, hfinding⟩ := Outcome.exists_item_of_mapM_error hread
      have haverage : averageOf pattern words findings = .error failure := by
        change (smells words findings).mapM _ >>= _ = _
        rw [hread]
        rfl
      rw [haverage, eq_tooManyDigits_of_numberIn hfinding]
      rfl
  · rw [if_neg hlong, averageOf_of_short, failure?_average]
    intro digits hdigits
    by_contra hlength
    exact hlong (List.any_eq_true.2 ⟨digits, hdigits, decide_eq_true (not_le.1 hlength)⟩)

theorem failure?_ofFindings (findings : List Finding) :
    Outcome.failure? (Metrics.ofFindings findings) = faultIn? findings := by
  unfold faultIn?
  rw [← failure?_averageOf, ← failure?_averageOf, ← failure?_averageOf]
  unfold Metrics.ofFindings
  cases averageOf complexityPattern ["complexity"] findings with
  | error failure => rfl
  | ok complexity =>
    cases averageOf lengthPattern ["function", "long"] findings with
    | error failure => rfl
    | ok functionLength =>
      cases averageOf lengthPattern ["class", "large"] findings with
      | error failure => rfl
      | ok classLength => rfl

theorem total_le_of_short {numbers : List (List Char)} {count : Nat}
    (h : ∀ digits ∈ numbers, digits.length ≤ count) :
    total numbers ≤ 10 ^ count * numbers.length := by
  induction numbers with
  | nil => exact Nat.zero_le _
  | cons digits rest ih =>
    rw [List.forall_mem_cons] at h
    have hfirst : Decimal.natOfDigits digits ≤ 10 ^ count :=
      (Decimal.natOfDigits_lt digits).le.trans (Nat.pow_le_pow_right (by decide) h.1)
    have hrest := ih h.2
    rw [total, List.map_cons, List.sum_cons, ← total, List.length_cons, Nat.mul_succ]
    omega

/-- Numbers of at most 308 digits have a mean. -/
theorem fault?_of_short {numbers : List (List Char)} (h : ∀ digits ∈ numbers, digits.length ≤ 308) :
    fault? numbers = none := by
  have hread : ¬numbers.any (Decimal.maxDigits < ·.length) = true := by
    rw [List.any_eq_true]
    rintro ⟨digits, hdigits, hlength⟩
    exact not_lt.2 ((h digits hdigits).trans (by decide)) (of_decide_eq_true hlength)
  have hsmall : numbers ≠ [] → total numbers < Binary64.overflow * numbers.length := by
    intro hnone
    have hlimit : 10 ^ 308 < Binary64.overflow := by decide +kernel
    exact (total_le_of_short h).trans_lt
      (Nat.mul_lt_mul_of_pos_right hlimit (List.length_pos_iff.2 hnone))
  unfold fault?
  rw [if_neg hread, if_neg fun hlarge => not_lt.2 hlarge.2 (hsmall hlarge.1)]

end Metrics
end KotlinAudit
