import KotlinAudit.Proofs.Baseline.Compare
import KotlinAudit.Proofs.Decimal.Nearest
import Mathlib.Tactic.Linarith
import Mathlib.Tactic.Positivity

/-! Which way a quantity has changed, and by how much, told by one rule in any arithmetic. Of nine quantities
seven are better when they are smaller and two when they are greater. In binary numbers each of them changes
in the direction that exact arithmetic tells. -/
namespace KotlinAudit

open Decimal (Arithmetic Binary64)

/-- A change for the better, for the worse, or none, by an amount in some kind of numbers. -/
inductive Shift (α : Type)
  | improved (amount : α)
  | regressed (amount : α)
  | none

namespace Shift

variable {α : Type}

def improvement? : Shift α → Option α
  | improved amount => some amount
  | _ => Option.none

def regression? : Shift α → Option α
  | regressed amount => some amount
  | _ => Option.none

/-- A shift in the direction that a gain tells. -/
def Follows (gain : ℚ) : Shift α → Prop
  | improved _ => 0 < gain
  | regressed _ => gain < 0
  | none => gain = 0

theorem Follows.isSome_improvement?_iff {gain : ℚ} {shift : Shift α} (h : shift.Follows gain) :
    shift.improvement?.isSome = true ↔ 0 < gain := by
  cases shift with
  | improved amount => exact iff_of_true rfl h
  | regressed amount => exact iff_of_false nofun (not_lt.2 (le_of_lt h))
  | none => exact iff_of_false nofun (not_lt.2 (le_of_eq h))

theorem Follows.isSome_regression?_iff {gain : ℚ} {shift : Shift α} (h : shift.Follows gain) :
    shift.regression?.isSome = true ↔ gain < 0 := by
  cases shift with
  | improved amount => exact iff_of_false nofun (not_lt.2 (le_of_lt h))
  | regressed amount => exact iff_of_true rfl h
  | none => exact iff_of_false nofun (not_lt.2 (ge_of_eq h))

variable (arithmetic : Arithmetic α)

/-- The change between two counts in percent of the first one, or of one when that is not positive. -/
def countAmount (before after : Int) : Except ChangeError α :=
  let base : Int := if 0 < before then before else 1
  match arithmetic.ofRat? (((after - before).natAbs : Rat) / (base : Rat)) with
  | some share => .ok (arithmetic.mul share (arithmetic.ofRat 100))
  | Option.none => .error .tooLarge

/-- The change between two averages in percent of the first one, or of one when that is not
positive. -/
def averageAmount (before after : α) : α :=
  let base := if arithmetic.lt (arithmetic.ofRat 0) before then before else arithmetic.ofRat 1
  arithmetic.mul (arithmetic.div (arithmetic.abs (arithmetic.sub after before)) base)
    (arithmetic.ofRat 100)

def ofCounts (before after : Int) : Except ChangeError (Shift α) := do
  if after < before then return improved (← countAmount arithmetic before after)
  else if before < after then return regressed (← countAmount arithmetic before after)
  else return none

def ofAverages (before after : α) : Shift α :=
  if arithmetic.lt after before then improved (averageAmount arithmetic before after)
  else if arithmetic.lt before after then regressed (averageAmount arithmetic before after)
  else none

def ofCoverages (before after : α) : Shift α :=
  if arithmetic.lt before after then improved (arithmetic.sub after before)
  else if arithmetic.lt after before then regressed (arithmetic.sub before after)
  else none

/-! ### In exact arithmetic -/

/-- The change in percent of a value, or of one when that is not positive. -/
def percentage (before after : ℚ) : ℚ :=
  |after - before| / (if 0 < before then before else 1) * 100

theorem percentage_pos {before after : ℚ} (h : after ≠ before) : 0 < percentage before after := by
  have hchange : 0 < |after - before| := abs_pos.2 (sub_ne_zero.2 h)
  unfold percentage
  split_ifs with hbefore <;> positivity

/-- What shrinks without getting negative shrinks by one hundred percent at most. -/
theorem percentage_le {before after : ℚ} (hafter : 0 ≤ after) (h : after < before) :
    percentage before after ≤ 100 := by
  have hbefore : 0 < before := hafter.trans_lt h
  have hshare : (before - after) / before ≤ 1 := by
    rw [div_le_one hbefore]
    linarith
  rw [percentage, if_pos hbefore, abs_sub_comm, abs_of_pos (sub_pos.2 h)]
  linarith

theorem countAmount_rational (before after : Int) :
    countAmount .rational before after = .ok (percentage before after) := by
  have habs : (((after - before).natAbs : Nat) : ℚ) = |(after : ℚ) - before| := by
    rw [Nat.cast_natAbs, Int.cast_abs, Int.cast_sub]
  have hbase : ((if 0 < before then before else 1 : Int) : ℚ) =
      if (0 : ℚ) < before then (before : ℚ) else 1 := by
    split_ifs with hint hrat hrat
    · rfl
    · exact absurd (by exact_mod_cast hint) hrat
    · exact absurd (by exact_mod_cast hrat) hint
    · norm_num
  rw [percentage, ← habs, ← hbase]
  rfl

theorem averageAmount_rational (before after : ℚ) :
    averageAmount .rational before after = percentage before after := by
  simp only [averageAmount, percentage, Arithmetic.rational, id, decide_eq_true_eq]

/-- The change by an amount in the direction of a gain. -/
def along (gain amount : ℚ) : Shift ℚ :=
  if 0 < gain then improved amount else if gain < 0 then regressed amount else none

theorem follows_along (gain amount : ℚ) : (along gain amount).Follows gain := by
  unfold along
  split_ifs with hgain hloss
  · exact hgain
  · exact hloss
  · exact le_antisymm (not_lt.1 hgain) (not_lt.1 hloss)

theorem improvement?_along {gain amount found : ℚ} :
    (along gain amount).improvement? = some found ↔ 0 < gain ∧ amount = found := by
  unfold along
  split_ifs with hgain hloss
  · simp [improvement?, hgain]
  · simp [improvement?, hgain]
  · simp [improvement?, hgain]

theorem regression?_along {gain amount found : ℚ} :
    (along gain amount).regression? = some found ↔ gain < 0 ∧ amount = found := by
  unfold along
  split_ifs with hgain hloss
  · simp [regression?, hgain.le]
  · simp [regression?, hloss]
  · simp [regression?, hloss]

theorem ofCounts_rational (before after : Int) :
    ofCounts .rational before after =
      .ok (along ((before : ℚ) - after) (percentage before after)) := by
  unfold ofCounts along
  rw [countAmount_rational]
  simp only [sub_pos, sub_neg, Int.cast_lt]
  split_ifs <;> rfl

theorem ofAverages_rational (before after : ℚ) :
    ofAverages .rational before after = along (before - after) (percentage before after) := by
  unfold ofAverages along
  rw [averageAmount_rational]
  simp only [Arithmetic.rational, decide_eq_true_eq, sub_pos, sub_neg]

theorem ofCoverages_rational (before after : ℚ) :
    ofCoverages .rational before after = along (after - before) |after - before| := by
  simp only [ofCoverages, along, Arithmetic.rational, decide_eq_true_eq, sub_pos, sub_neg]
  split_ifs with hgain hloss
  · rw [abs_of_pos (sub_pos.2 hgain)]
  · rw [abs_sub_comm, abs_of_pos (sub_pos.2 hloss)]
  · rfl

/-! ### In any arithmetic that orders the values -/

variable {arithmetic} {shift : Shift α} {before after : α} {old new : ℚ}

theorem follows_ofCounts {before after : Int} (h : ofCounts arithmetic before after = .ok shift) :
    shift.Follows ((before : ℚ) - after) := by
  unfold ofCounts at h
  split_ifs at h with hgain hloss
  · obtain ⟨amount, -, h⟩ := Outcome.bind_eq_ok.1 h
    cases h
    exact sub_pos.2 (by exact_mod_cast hgain)
  · obtain ⟨amount, -, h⟩ := Outcome.bind_eq_ok.1 h
    cases h
    exact sub_neg.2 (by exact_mod_cast hloss)
  · cases h
    have hsame : before = after := le_antisymm (not_lt.1 hgain) (not_lt.1 hloss)
    exact sub_eq_zero.2 (by rw [hsame])

theorem follows_ofAverages (hless : arithmetic.lt after before = decide (new < old))
    (hmore : arithmetic.lt before after = decide (old < new)) :
    (ofAverages arithmetic before after).Follows (old - new) := by
  unfold ofAverages
  rw [hless, hmore]
  simp only [decide_eq_true_eq]
  split_ifs with hgain hloss
  · exact sub_pos.2 hgain
  · exact sub_neg.2 hloss
  · exact sub_eq_zero.2 (le_antisymm (not_lt.1 hgain) (not_lt.1 hloss))

theorem follows_ofCoverages (hless : arithmetic.lt after before = decide (new < old))
    (hmore : arithmetic.lt before after = decide (old < new)) :
    (ofCoverages arithmetic before after).Follows (new - old) := by
  unfold ofCoverages
  rw [hless, hmore]
  simp only [decide_eq_true_eq]
  split_ifs with hgain hloss
  · exact sub_pos.2 hgain
  · exact sub_neg.2 hloss
  · exact sub_eq_zero.2 (le_antisymm (not_lt.1 hgain) (not_lt.1 hloss))

end Shift

/-- What runs are compared by. -/
inductive Quantity
  | issues (priority : Priority)
  | averageComplexity
  | averageFunctionLength
  | averageClassLength
  | testCoverage
  | documentationCoverage
deriving DecidableEq, Repr

namespace Quantity

def all : List Quantity :=
  Priority.all.map issues ++ [averageComplexity, averageFunctionLength, averageClassLength,
    testCoverage, documentationCoverage]

def name : Quantity → String
  | issues priority => priority.name ++ "_issues"
  | averageComplexity => "average_complexity"
  | averageFunctionLength => "average_function_length"
  | averageClassLength => "average_class_length"
  | testCoverage => "test_coverage"
  | documentationCoverage => "documentation_coverage"

theorem mem_all (quantity : Quantity) : quantity ∈ all := by
  cases quantity with
  | issues priority => cases priority <;> decide
  | _ => decide

theorem map_name_all : all.map name = Metrics.changeNames := rfl

theorem name_injective {quantity other : Quantity} (h : quantity.name = other.name) :
    quantity = other := by
  have hnodup : (all.map name).Nodup := by decide
  exact List.inj_on_of_nodup_map hnodup (mem_all quantity) (mem_all other) h

/-- Whether it is better when it is greater. -/
def isCoverage : Quantity → Bool
  | testCoverage | documentationCoverage => true
  | _ => false

/-- The exact value in some metrics; a priority that is not counted has no findings. -/
def value (metrics : Metrics) : Quantity → ℚ
  | issues priority => metrics.byPriority.get priority
  | averageComplexity => metrics.averageComplexity.value
  | averageFunctionLength => metrics.averageFunctionLength.value
  | averageClassLength => metrics.averageClassLength.value
  | testCoverage => metrics.testCoverage.value
  | documentationCoverage => metrics.documentationCoverage.value

/-- By how much it is better in some metrics than in those before. -/
def gain (quantity : Quantity) (current before : Metrics) : ℚ :=
  if quantity.isCoverage then quantity.value current - quantity.value before
  else quantity.value before - quantity.value current

/-- Strictly better than before. -/
def Better (quantity : Quantity) (current before : Metrics) : Prop := 0 < quantity.gain current before

variable {quantity : Quantity} {current before : Metrics}

theorem gain_swap (quantity : Quantity) (current before : Metrics) :
    quantity.gain before current = -quantity.gain current before := by
  unfold gain
  split_ifs <;> ring

theorem better_swap_iff : quantity.Better before current ↔ quantity.gain current before < 0 := by
  rw [Better, gain_swap, Left.neg_pos_iff]

theorem gain_eq_zero_iff :
    quantity.gain current before = 0 ↔ quantity.value current = quantity.value before := by
  unfold gain
  split_ifs
  · exact sub_eq_zero
  · rw [sub_eq_zero, eq_comm]

/-- The change of a quantity in an arithmetic. -/
def shiftIn {α : Type} (arithmetic : Arithmetic α) (current before : Metrics) :
    Quantity → Except ChangeError (Shift α)
  | issues priority =>
    Shift.ofCounts arithmetic (before.byPriority.get priority) (current.byPriority.get priority)
  | averageComplexity => .ok (.ofAverages arithmetic (arithmetic.read before.averageComplexity)
      (arithmetic.read current.averageComplexity))
  | averageFunctionLength => .ok (.ofAverages arithmetic
      (arithmetic.read before.averageFunctionLength)
      (arithmetic.read current.averageFunctionLength))
  | averageClassLength => .ok (.ofAverages arithmetic (arithmetic.read before.averageClassLength)
      (arithmetic.read current.averageClassLength))
  | testCoverage => .ok (.ofCoverages arithmetic (arithmetic.read before.testCoverage)
      (arithmetic.read current.testCoverage))
  | documentationCoverage => .ok (.ofCoverages arithmetic
      (arithmetic.read before.documentationCoverage)
      (arithmetic.read current.documentationCoverage))

/-- The amount of a change in exact arithmetic: points of percentage for a coverage, and percent of the
value before for all else. -/
def amount (quantity : Quantity) (current before : Metrics) : ℚ :=
  if quantity.isCoverage then |quantity.gain current before|
  else Shift.percentage (quantity.value before) (quantity.value current)

theorem shiftIn_rational (quantity : Quantity) (current before : Metrics) :
    quantity.shiftIn .rational current before =
      .ok (.along (quantity.gain current before) (quantity.amount current before)) := by
  cases quantity with
  | issues priority => exact Shift.ofCounts_rational _ _
  | averageComplexity => exact congrArg _ (Shift.ofAverages_rational _ _)
  | averageFunctionLength => exact congrArg _ (Shift.ofAverages_rational _ _)
  | averageClassLength => exact congrArg _ (Shift.ofAverages_rational _ _)
  | testCoverage => exact congrArg _ (Shift.ofCoverages_rational _ _)
  | documentationCoverage => exact congrArg _ (Shift.ofCoverages_rational _ _)

theorem amount_pos (h : quantity.gain current before ≠ 0) : 0 < quantity.amount current before := by
  unfold amount
  split_ifs
  · exact abs_pos.2 h
  · exact Shift.percentage_pos fun hsame => h (gain_eq_zero_iff.2 hsame)

theorem amount_le (hkind : quantity.isCoverage = false) (hvalue : 0 ≤ quantity.value current)
    (h : quantity.Better current before) : quantity.amount current before ≤ 100 := by
  rw [Better, gain, if_neg (by simp [hkind]), sub_pos] at h
  rw [amount, if_neg (by simp [hkind])]
  exact Shift.percentage_le hvalue h

/-- Points of percentage are the same in both directions. -/
theorem amount_swap (hkind : quantity.isCoverage = true) :
    quantity.amount before current = quantity.amount current before := by
  rw [amount, amount, if_pos hkind, if_pos hkind, gain_swap, abs_neg]

/-- In binary numbers a quantity changes in the same direction, unless one of its values is no number. -/
theorem follows_shiftIn_binary (hcurrent : ∀ number ∈ current.numbers, number.isFinite = true)
    (hbefore : ∀ number ∈ before.numbers, number.isFinite = true) {shift : Shift Binary64}
    (h : quantity.shiftIn .binary current before = .ok shift) :
    shift.Follows (quantity.gain current before) := by
  simp only [Metrics.numbers, List.forall_mem_cons] at hcurrent hbefore
  obtain ⟨hc₁, hc₂, hc₃, hc₄, hc₅, -⟩ := hcurrent
  obtain ⟨hb₁, hb₂, hb₃, hb₄, hb₅, -⟩ := hbefore
  cases quantity with
  | issues priority => exact Shift.follows_ofCounts h
  | averageComplexity =>
    cases h
    exact Shift.follows_ofAverages (Binary64.lt_of_isFinite hc₁ hb₁) (Binary64.lt_of_isFinite hb₁ hc₁)
  | averageFunctionLength =>
    cases h
    exact Shift.follows_ofAverages (Binary64.lt_of_isFinite hc₂ hb₂) (Binary64.lt_of_isFinite hb₂ hc₂)
  | averageClassLength =>
    cases h
    exact Shift.follows_ofAverages (Binary64.lt_of_isFinite hc₃ hb₃) (Binary64.lt_of_isFinite hb₃ hc₃)
  | testCoverage =>
    cases h
    exact Shift.follows_ofCoverages (Binary64.lt_of_isFinite hc₄ hb₄)
      (Binary64.lt_of_isFinite hb₄ hc₄)
  | documentationCoverage =>
    cases h
    exact Shift.follows_ofCoverages (Binary64.lt_of_isFinite hc₅ hb₅)
      (Binary64.lt_of_isFinite hb₅ hc₅)

end Quantity
end KotlinAudit
