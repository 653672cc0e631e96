import KotlinAudit.Decimal.Shortest
import KotlinAudit.Proofs.Decimal.Nearest
import KotlinAudit.Proofs.Decimal.Numeral

/-! The fewest digits that read back. Seventeen digits always come close enough to a number, so that
there are some, and it does not matter with how many zeros at their end they are read. -/
namespace KotlinAudit.Decimal

/-- A decimal number as a numerator and a denominator. -/
def ratio (digits : Nat) (exponent : Int) : Nat × Nat :=
  if 0 ≤ exponent then (digits * 10 ^ exponent.toNat, 1) else (digits, 10 ^ (-exponent).toNat)

theorem ratio_spec (digits : Nat) (exponent : Int) :
    0 < (ratio digits exponent).2 ∧
      ((ratio digits exponent).1 : ℚ) / (ratio digits exponent).2 = digits * 10 ^ exponent := by
  unfold ratio
  split_ifs with hsign
  · obtain ⟨count, rfl⟩ := Int.eq_ofNat_of_zero_le hsign
    refine ⟨one_pos, ?_⟩
    simp only [Int.toNat_natCast, Nat.cast_mul, Nat.cast_pow, Nat.cast_ofNat, Nat.cast_one,
      div_one, zpow_natCast]
  · obtain ⟨count, rfl⟩ : ∃ count : Nat, exponent = -(count : Int) :=
      ⟨(-exponent).toNat, by omega⟩
    refine ⟨Nat.pow_pos (by decide), ?_⟩
    simp only [neg_neg, Int.toNat_natCast, Nat.cast_pow, Nat.cast_ofNat, zpow_neg, zpow_natCast]
    rw [div_eq_mul_inv]

/-- A decimal number that is not decided by its size alone. -/
structure InRange (digits : Nat) (exponent : Int) : Prop where
  digits : digits < 10 ^ 40
  lowest : -359 ≤ exponent
  greatest : exponent ≤ 359

namespace Binary64

theorem ofDecimal_eq_nearest (negative : Bool) {digits : Nat} {exponent : Int}
    (h : InRange digits exponent) : ofDecimal negative digits exponent =
      nearest negative (ratio digits exponent).1 (ratio digits exponent).2 := by
  unfold ofDecimal ratio
  by_cases hzero : digits = 0
  · subst hzero
    rw [if_pos rfl]
    split_ifs <;> simp [nearest]
  · rw [if_neg hzero]
    have hlog : digits.log2 < 133 :=
      (Nat.log2_lt hzero).2 (h.digits.trans (by norm_num))
    have hlowest := h.lowest
    have hgreatest := h.greatest
    dsimp only
    rw [if_neg (by omega), if_neg (by omega)]
    split_ifs <;> rfl

/-- Zeros at the end of the digits make no difference. -/
theorem ofDecimal_shift (negative : Bool) {digits : Nat} (count : Nat) {exponent : Int}
    (h : InRange digits exponent) (hshift : InRange (digits * 10 ^ count) (exponent - count)) :
    ofDecimal negative (digits * 10 ^ count) (exponent - count) =
      ofDecimal negative digits exponent := by
  rw [ofDecimal_eq_nearest negative h, ofDecimal_eq_nearest negative hshift]
  obtain ⟨hpos, hvalue⟩ := ratio_spec digits exponent
  obtain ⟨hpos', hvalue'⟩ := ratio_spec (digits * 10 ^ count) (exponent - count)
  refine nearest_congr negative hpos' hpos ?_
  have hsame : ((ratio (digits * 10 ^ count) (exponent - count)).1 : ℚ) /
      (ratio (digits * 10 ^ count) (exponent - count)).2 =
        (ratio digits exponent).1 / (ratio digits exponent).2 := by
    rw [hvalue, hvalue', zpow_sub₀ (by norm_num), zpow_natCast]
    push_cast
    field_simp
  rw [div_eq_div_iff (by exact_mod_cast hpos'.ne') (by exact_mod_cast hpos.ne')] at hsame
  exact_mod_cast hsame

/-- A decimal number that is close to a canonical number reads back as it. -/
theorem ofDecimal_eq (negative : Bool) {digits mantissa : Nat} {unit exponent : Int}
    (h : InRange digits unit) (hcanonical : Canonical mantissa exponent) (hmantissa : 0 < mantissa)
    (hbelow : (mantissa : ℚ) * 2 ^ exponent * (1 - 1 / 2 ^ 54) < digits * 10 ^ unit)
    (habove : (digits : ℚ) * 10 ^ unit < (mantissa : ℚ) * 2 ^ exponent * (1 + 1 / 2 ^ 54)) :
    ofDecimal negative digits unit = finite negative mantissa exponent := by
  obtain ⟨hpos, hvalue⟩ := ratio_spec digits unit
  rw [ofDecimal_eq_nearest negative h]
  rw [← hvalue] at hbelow habove
  have hposq : (0 : ℚ) < (ratio digits unit).2 := by exact_mod_cast hpos
  have hleast : (0 : ℚ) < (ratio digits unit).1 := by
    have hmantissaq : (0 : ℚ) < mantissa := by exact_mod_cast hmantissa
    have hless : (0 : ℚ) < (ratio digits unit).1 / (ratio digits unit).2 := by
      refine lt_trans ?_ hbelow
      have : (0 : ℚ) < 1 - 1 / 2 ^ 54 := by norm_num
      positivity
    exact (div_pos_iff_of_pos_right hposq).1 hless
  exact nearest_eq negative (by exact_mod_cast hleast) hpos hcanonical hbelow habove

end Binary64

/-! ### Powers of ten -/

/-- The powers of two that are whole numbers, against the guessed powers of ten. -/
theorem pow_guess : ∀ count < 1024, 10 ^ (count * 30103 / 100000) ≤ 10 * 2 ^ count ∧
    2 ^ (count + 1) < 10 ^ (count * 30103 / 100000 + 3) := by
  decide +kernel

/-- The powers of two that are fractions, by their denominators. -/
theorem pow_guess_inv : ∀ count < 1075, 2 ^ count ≤ 10 ^ ((count * 30103 + 99999) / 100000 + 1) ∧
    2 * 10 ^ ((count * 30103 + 99999) / 100000) < 1000 * 2 ^ count := by
  decide +kernel

/-- The guess at the exponent of ten of a power of two is too great by one at most. -/
theorem guess_spec {leading : Int} (hlow : -1074 ≤ leading) (hhigh : leading ≤ 1023) :
    (10 : ℚ) ^ (leading * 30103 / 100000 - 1) ≤ 2 ^ leading ∧
      (2 : ℚ) ^ (leading + 1) < 10 ^ (leading * 30103 / 100000 + 3) := by
  have hten : (10 : ℚ) ≠ 0 := by norm_num
  rcases Int.le_total 0 leading with hsign | hsign
  · obtain ⟨count, rfl⟩ := Int.eq_ofNat_of_zero_le hsign
    obtain ⟨hle, hlt⟩ := pow_guess count (by omega)
    have hguess : (count : Int) * 30103 / 100000 = ((count * 30103 / 100000 : Nat) : Int) := by
      omega
    rw [hguess]
    generalize count * 30103 / 100000 = guess at *
    constructor
    · rw [zpow_sub₀ hten, zpow_one, zpow_natCast, zpow_natCast, div_le_iff₀ (by norm_num), mul_comm]
      exact_mod_cast hle
    · exact_mod_cast hlt
  · obtain ⟨count, rfl⟩ : ∃ count : Nat, leading = -(count : Int) := ⟨(-leading).toNat, by omega⟩
    obtain ⟨hle, hlt⟩ := pow_guess_inv count (by omega)
    have hguess : -(count : Int) * 30103 / 100000 =
        -(((count * 30103 + 99999) / 100000 : Nat) : Int) := by
      omega
    rw [hguess]
    generalize (count * 30103 + 99999) / 100000 = guess at *
    have hleq : (2 : ℚ) ^ count ≤ 10 ^ (guess + 1) := by exact_mod_cast hle
    have hltq : 2 * (10 : ℚ) ^ guess < 1000 * 2 ^ count := by exact_mod_cast hlt
    constructor
    · rw [show -(guess : Int) - 1 = -((guess + 1 : Nat) : Int) by push_cast; ring, zpow_neg, zpow_neg,
        zpow_natCast, zpow_natCast]
      exact inv_anti₀ (by positivity) hleq
    · rw [zpow_add₀ two_ne_zero, zpow_add₀ hten, zpow_neg, zpow_neg, zpow_natCast, zpow_natCast,
        zpow_one, show (10 : ℚ) ^ (3 : Int) = 1000 by norm_num, inv_mul_eq_div, inv_mul_eq_div,
        div_lt_div_iff₀ (by positivity) (by positivity)]
      exact hltq

theorem pow_le_div_iff {num den : Nat} (hden : 0 < den) (exponent : Int) :
    (if 0 ≤ exponent then decide (den * Nat.pow 10 exponent.toNat ≤ num)
      else decide (den ≤ num * Nat.pow 10 (-exponent).toNat)) = true ↔
      (10 : ℚ) ^ exponent ≤ (num : ℚ) / den := by
  have hdenq : (0 : ℚ) < den := by exact_mod_cast hden
  rw [le_div_iff₀ hdenq]
  split_ifs with hsign
  · obtain ⟨count, rfl⟩ := Int.eq_ofNat_of_zero_le hsign
    rw [decide_eq_true_eq, zpow_natCast, Int.toNat_natCast, Nat.pow_eq, mul_comm]
    exact_mod_cast Iff.rfl
  · obtain ⟨count, rfl⟩ : ∃ count : Nat, exponent = -(count : Int) :=
      ⟨(-exponent).toNat, by omega⟩
    rw [decide_eq_true_eq, neg_neg, Int.toNat_natCast, Nat.pow_eq, zpow_neg, zpow_natCast,
      inv_mul_eq_div, div_le_iff₀ (by positivity)]
    exact_mod_cast Iff.rfl

/-- The exponent of ten of a value whose exponent of two is known. -/
theorem decimalExponent_spec {num den : Nat} (hnum : 0 < num) (hden : 0 < den)
    (hlow : -1074 ≤ Binary64.leadingExponent num den)
    (hhigh : Binary64.leadingExponent num den ≤ 1023) :
    (10 : ℚ) ^ decimalExponent num den ≤ (num : ℚ) / den ∧
      (num : ℚ) / den < 10 ^ (decimalExponent num den + 4) ∧
      -326 ≤ decimalExponent num den ∧ decimalExponent num den ≤ 309 := by
  obtain ⟨htwo, htwo'⟩ := Binary64.leadingExponent_spec hnum hden
  obtain ⟨hten, hten'⟩ := guess_spec hlow hhigh
  unfold decimalExponent
  dsimp only
  simp only [pow_le_div_iff hden]
  generalize hguess : Binary64.leadingExponent num den * 30103 / 100000 = guess at *
  have hgreater : ∀ top : Int, guess - 1 ≤ top → (num : ℚ) / den < 10 ^ (top + 4) := by
    intro top htop
    calc (num : ℚ) / den < 2 ^ (Binary64.leadingExponent num den + 1) := htwo'
      _ < 10 ^ (guess + 3) := hten'
      _ ≤ 10 ^ (top + 4) := zpow_le_zpow_right₀ (by norm_num) (by omega)
  split_ifs with hnext hsame
  · exact ⟨hnext, hgreater _ (by omega), by omega, by omega⟩
  · exact ⟨hsame, hgreater _ (by omega), by omega, by omega⟩
  · exact ⟨hten.trans htwo, hgreater _ (by omega), by omega, by omega⟩

/-! ### Candidates -/

/-- The quotient of a value and a power of ten. -/
def perUnit (num den : Nat) (unit : Int) : Nat × Nat :=
  if 0 ≤ unit then (num, den * Nat.pow 10 unit.toNat) else (num * Nat.pow 10 (-unit).toNat, den)

theorem perUnit_spec (num : Nat) {den : Nat} (hden : 0 < den) (unit : Int) :
    0 < (perUnit num den unit).2 ∧
      ((perUnit num den unit).1 : ℚ) / (perUnit num den unit).2 = (num : ℚ) / den / 10 ^ unit := by
  unfold perUnit
  split_ifs with hsign
  · obtain ⟨count, rfl⟩ := Int.eq_ofNat_of_zero_le hsign
    refine ⟨Nat.mul_pos hden (Nat.pow_pos (by decide)), ?_⟩
    simp only [Int.toNat_natCast, Nat.pow_eq, Nat.cast_mul, Nat.cast_pow, Nat.cast_ofNat,
      zpow_natCast]
    rw [div_div]
  · obtain ⟨count, rfl⟩ : ∃ count : Nat, unit = -(count : Int) := ⟨(-unit).toNat, by omega⟩
    refine ⟨hden, ?_⟩
    simp only [neg_neg, Int.toNat_natCast, Nat.pow_eq, Nat.cast_mul, Nat.cast_pow, Nat.cast_ofNat,
      zpow_neg, zpow_natCast]
    field_simp

theorem roundedQuotient_mem (num den : Nat) :
    roundedQuotient num den = num / den ∨ roundedQuotient num den = num / den + 1 := by
  unfold roundedQuotient
  dsimp only
  split_ifs <;> omega

/-- Rounding moves a quotient by one half at most. -/
theorem roundedQuotient_close (num : Nat) {den : Nat} (h : 0 < den) :
    2 * roundedQuotient num den * den ≤ 2 * num + den ∧
      2 * num ≤ 2 * roundedQuotient num den * den + den := by
  have hsplit := Nat.div_add_mod num den
  have hmod := Nat.mod_lt num h
  unfold roundedQuotient
  dsimp only
  generalize num / den = quotient at *
  generalize num % den = remainder at *
  subst hsplit
  have hhalf : quotient % 2 = 0 ∨ quotient % 2 = 1 := by omega
  split_ifs
  · constructor <;> nlinarith
  · constructor <;> nlinarith
  · rcases hhalf with hhalf | hhalf
    · rw [hhalf]
      constructor <;> nlinarith
    · rw [hhalf]
      constructor <;> nlinarith

theorem candidate_eq (number : Binary64) (num den : Nat) (unit : Int) :
    candidate number num den unit =
      match Binary64.ofDecimal false ((perUnit num den unit).1 / (perUnit num den unit).2) unit ==
          number,
        Binary64.ofDecimal false ((perUnit num den unit).1 / (perUnit num den unit).2 + 1) unit ==
          number with
      | true, true => some (roundedQuotient (perUnit num den unit).1 (perUnit num den unit).2)
      | true, false => some ((perUnit num den unit).1 / (perUnit num den unit).2)
      | false, true => some ((perUnit num den unit).1 / (perUnit num den unit).2 + 1)
      | false, false => none := rfl

/-- A candidate is one of the two multiples around the value, and reads back. -/
theorem candidate_spec {number : Binary64} {num den : Nat} {unit : Int} {digits : Nat}
    (h : candidate number num den unit = some digits) :
    Binary64.ofDecimal false digits unit = number ∧
      digits ≤ (perUnit num den unit).1 / (perUnit num den unit).2 + 1 := by
  rw [candidate_eq] at h
  split at h
  · next hbelow habove =>
    cases h
    rcases roundedQuotient_mem (perUnit num den unit).1 (perUnit num den unit).2 with heq | heq
    · rw [heq]
      exact ⟨beq_iff_eq.1 hbelow, Nat.le_succ _⟩
    · rw [heq]
      exact ⟨beq_iff_eq.1 habove, le_rfl⟩
  · next hbelow _ =>
    cases h
    exact ⟨beq_iff_eq.1 hbelow, Nat.le_succ _⟩
  · next _ habove =>
    cases h
    exact ⟨beq_iff_eq.1 habove, le_rfl⟩
  · cases h

theorem candidate_isSome {number : Binary64} {num den : Nat} {unit : Int}
    (h : Binary64.ofDecimal false
      (roundedQuotient (perUnit num den unit).1 (perUnit num den unit).2) unit = number) :
    ∃ digits, candidate number num den unit = some digits := by
  rw [candidate_eq]
  split
  · exact ⟨_, rfl⟩
  · exact ⟨_, rfl⟩
  · exact ⟨_, rfl⟩
  · next hbelow habove =>
    exfalso
    rcases roundedQuotient_mem (perUnit num den unit).1 (perUnit num den unit).2 with heq | heq
    · rw [heq] at h
      rw [h, beq_self_eq_true] at hbelow
      cases hbelow
    · rw [heq] at h
      rw [h, beq_self_eq_true] at habove
      cases habove

/-- Where the unit is small against the value, the nearest multiple of it reads back. -/
theorem exists_candidate {mantissa num den : Nat} {exponent : Int} (unit : Int)
    (hcanonical : Binary64.Canonical mantissa exponent) (hmantissa : 0 < mantissa) (hden : 0 < den)
    (hvalue : (num : ℚ) / den = mantissa * 2 ^ exponent)
    (hunit : (10 : ℚ) ^ unit * 10 ^ 16 ≤ (num : ℚ) / den)
    (hrange : InRange (roundedQuotient (perUnit num den unit).1 (perUnit num den unit).2) unit) :
    ∃ digits, candidate (.finite false mantissa exponent) num den unit = some digits := by
  obtain ⟨hpos, hper⟩ := perUnit_spec num hden unit
  obtain ⟨hupper, hlower⟩ := roundedQuotient_close (perUnit num den unit).1 hpos
  refine candidate_isSome ?_
  have hposq : (0 : ℚ) < (perUnit num den unit).2 := by exact_mod_cast hpos
  have hunitpos : (0 : ℚ) < 10 ^ unit := by positivity
  generalize roundedQuotient (perUnit num den unit).1 (perUnit num den unit).2 = rounded at *
  have hupperq : (rounded : ℚ) ≤ (num : ℚ) / den / 10 ^ unit + 1 / 2 := by
    have h : 2 * (rounded : ℚ) * (perUnit num den unit).2 ≤
        2 * (perUnit num den unit).1 + (perUnit num den unit).2 := by exact_mod_cast hupper
    rw [← hper, div_add_div _ _ hposq.ne' two_ne_zero, le_div_iff₀ (by positivity)]
    linarith
  have hlowerq : (num : ℚ) / den / 10 ^ unit ≤ (rounded : ℚ) + 1 / 2 := by
    have h : 2 * ((perUnit num den unit).1 : ℚ) ≤
        2 * rounded * (perUnit num den unit).2 + (perUnit num den unit).2 := by
      exact_mod_cast hlower
    rw [← hper, div_le_iff₀ hposq]
    linarith
  have hupper' : (rounded : ℚ) * 10 ^ unit ≤ (num : ℚ) / den + 10 ^ unit / 2 := by
    calc (rounded : ℚ) * 10 ^ unit ≤ ((num : ℚ) / den / 10 ^ unit + 1 / 2) * 10 ^ unit := by gcongr
      _ = (num : ℚ) / den + 10 ^ unit / 2 := by field_simp
  have hlower' : (num : ℚ) / den ≤ rounded * 10 ^ unit + 10 ^ unit / 2 := by
    calc (num : ℚ) / den = (num : ℚ) / den / 10 ^ unit * 10 ^ unit := by field_simp
      _ ≤ (rounded + 1 / 2) * 10 ^ unit := by gcongr
      _ = rounded * 10 ^ unit + 10 ^ unit / 2 := by ring
  refine Binary64.ofDecimal_eq false hrange hcanonical hmantissa ?_ ?_
  · rw [← hvalue]
    nlinarith
  · rw [← hvalue]
    nlinarith

/-- A count of units is below a power of ten when the value is. -/
theorem perUnit_div_lt {num den : Nat} (hden : 0 < den) {unit top : Int}
    (h : (num : ℚ) / den < 10 ^ (top + 4)) (hunit : top ≤ unit + 16) :
    (perUnit num den unit).1 / (perUnit num den unit).2 < 10 ^ 20 := by
  obtain ⟨hpos, hper⟩ := perUnit_spec num hden unit
  have hposq : (0 : ℚ) < (perUnit num den unit).2 := by exact_mod_cast hpos
  rw [Nat.div_lt_iff_lt_mul hpos]
  have hless : ((perUnit num den unit).1 : ℚ) / (perUnit num den unit).2 < 10 ^ 20 := by
    rw [hper, div_lt_iff₀ (by positivity)]
    calc (num : ℚ) / den < 10 ^ (top + 4) := h
      _ ≤ 10 ^ (20 + unit) := zpow_le_zpow_right₀ (by norm_num) (by omega)
      _ = 10 ^ 20 * 10 ^ unit := by rw [zpow_add₀ (by norm_num)]; rfl
  rw [div_lt_iff₀ hposq] at hless
  exact_mod_cast hless

/-- The digits that are found, before the zeros at their end are dropped. -/
def foundDigits (mantissa : Nat) (exponent : Int) : Option (Nat × Int) :=
  (List.range 17).findSome? fun (extra : Nat) =>
    (candidate (.finite false mantissa exponent) (scaled mantissa 1 (-exponent)).1
      (scaled mantissa 1 (-exponent)).2
      (decimalExponent (scaled mantissa 1 (-exponent)).1 (scaled mantissa 1 (-exponent)).2 -
        (extra : Int))).map fun digits => (digits,
      decimalExponent (scaled mantissa 1 (-exponent)).1 (scaled mantissa 1 (-exponent)).2 -
        (extra : Int))

/-- Digits that read back are found. -/
theorem foundDigits_spec {mantissa : Nat} {exponent : Int}
    (hcanonical : Binary64.Canonical mantissa exponent) (hmantissa : 0 < mantissa) :
    ∃ digits unit, foundDigits mantissa exponent = some (digits, unit) ∧
      0 < digits ∧ digits ≤ 10 ^ 20 ∧ -342 ≤ unit ∧ unit ≤ 309 ∧
      Binary64.ofDecimal false digits unit = .finite false mantissa exponent := by
  obtain ⟨hden, hvalue⟩ := scaled_spec mantissa one_pos (-exponent)
  unfold foundDigits
  generalize (scaled mantissa 1 (-exponent)).1 = num at *
  generalize (scaled mantissa 1 (-exponent)).2 = den at *
  replace hvalue : (num : ℚ) / den = mantissa * 2 ^ exponent := by
    rw [hvalue, Nat.cast_one, div_one, zpow_neg, div_inv_eq_mul]
  have hmantissaq : (1 : ℚ) ≤ mantissa := by exact_mod_cast hmantissa
  have hbits : (mantissa : ℚ) < 2 ^ 53 := by exact_mod_cast hcanonical.bits
  have hvaluepos : (0 : ℚ) < (num : ℚ) / den := by
    rw [hvalue]
    positivity
  have hnum : 0 < num := by
    have hdenq : (0 : ℚ) < den := by exact_mod_cast hden
    exact_mod_cast (div_pos_iff_of_pos_right hdenq).1 hvaluepos
  obtain ⟨htwo, htwo'⟩ := Binary64.leadingExponent_spec hnum hden
  have hlow : -1074 ≤ Binary64.leadingExponent num den := by
    have hless : -1074 < Binary64.leadingExponent num den + 1 := by
      rw [← zpow_lt_zpow_iff_right₀ (by norm_num : (1 : ℚ) < 2)]
      calc (2 : ℚ) ^ (-1074 : Int) ≤ 2 ^ exponent :=
            zpow_le_zpow_right₀ (by norm_num) hcanonical.lowest
        _ ≤ mantissa * 2 ^ exponent := le_mul_of_one_le_left (by positivity) hmantissaq
        _ < 2 ^ (Binary64.leadingExponent num den + 1) := hvalue ▸ htwo'
    omega
  have hhigh : Binary64.leadingExponent num den ≤ 1023 := by
    have hless : Binary64.leadingExponent num den < 53 + 971 := by
      rw [← zpow_lt_zpow_iff_right₀ (by norm_num : (1 : ℚ) < 2)]
      calc (2 : ℚ) ^ Binary64.leadingExponent num den ≤ mantissa * 2 ^ exponent := hvalue ▸ htwo
        _ < 2 ^ 53 * 2 ^ exponent := by gcongr
        _ ≤ 2 ^ 53 * 2 ^ (971 : Int) := by
            have := zpow_le_zpow_right₀ (by norm_num : (1 : ℚ) ≤ 2) hcanonical.greatest
            gcongr
        _ = 2 ^ ((53 : Int) + 971) := by rw [zpow_add₀ two_ne_zero]; rfl
    omega
  obtain ⟨hten, hten', hleast, hmost⟩ := decimalExponent_spec hnum hden hlow hhigh
  generalize decimalExponent num den = top at *
  have hsmall : ∀ unit : Int, top ≤ unit + 16 →
      (perUnit num den unit).1 / (perUnit num den unit).2 < 10 ^ 20 :=
    fun unit hunit => perUnit_div_lt hden hten' hunit
  -- sixteen digits behind the first are enough
  obtain ⟨digits, hdigits⟩ := exists_candidate (top - (16 : Nat)) hcanonical hmantissa hden
    hvalue (by
      rw [← zpow_natCast (10 : ℚ) 16, ← zpow_add₀ (by norm_num), sub_add_cancel]
      exact hten)
    ⟨by
      have := hsmall (top - (16 : Nat)) (by omega)
      rcases roundedQuotient_mem (perUnit num den (top - (16 : Nat))).1
        (perUnit num den (top - (16 : Nat))).2 with heq | heq <;> omega, by omega, by omega⟩
  generalize hfound : (List.range 17).findSome? (fun (extra : Nat) =>
    (candidate (.finite false mantissa exponent) num den (top - (extra : Int))).map
      fun digits => (digits, top - (extra : Int))) = found
  cases found with
  | none =>
    have hnone := List.findSome?_eq_none_iff.1 hfound 16 (by decide)
    rw [hdigits] at hnone
    cases hnone
  | some pair =>
    obtain ⟨extra, hextra, hpair⟩ := List.exists_of_findSome?_eq_some hfound
    obtain ⟨digits, hcandidate, rfl⟩ := Option.map_eq_some_iff.1 hpair
    obtain ⟨hreads, hbound⟩ := candidate_spec hcandidate
    have hextra := List.mem_range.1 hextra
    have := hsmall (top - (extra : Int)) (by omega)
    refine ⟨digits, _, rfl, Nat.pos_of_ne_zero ?_, by omega, by omega, by omega, hreads⟩
    rintro rfl
    rw [Binary64.ofDecimal, if_pos rfl] at hreads
    cases hreads
    exact absurd hmantissa (Nat.lt_irrefl 0)

end KotlinAudit.Decimal
