import KotlinAudit.Decimal.Binary64
import Mathlib.Algebra.Order.Field.Power
import Mathlib.Algebra.Order.Field.Rat
import Mathlib.Data.Rat.Cast.Order
import Mathlib.Tactic.FieldSimp
import Mathlib.Tactic.Linarith
import Mathlib.Tactic.Positivity
import Mathlib.Tactic.Ring

/-! Rounding to the nearest binary number. The number depends only on the value of a quotient, and a
value that is close enough to a number is rounded to it. Arithmetic gives numbers that rounding can
give, as it rounds once. From the middle between the largest number and the next power of two on rounding leaves
the numbers. A computation that is written down once can be carried out in binary numbers, where every step
is rounded, and in rational numbers, where none is. -/
namespace KotlinAudit.Decimal

/-! ### Quotients -/

theorem roundedQuotient_mul_right (num : Nat) {den factor : Nat} (h : 0 < factor) :
    roundedQuotient (num * factor) (den * factor) = roundedQuotient num den := by
  unfold roundedQuotient
  rw [Nat.mul_div_mul_right _ _ h, Nat.mul_mod_mul_right]
  have hcompare : ∀ a b : Nat, a * factor < b * factor ↔ a < b := fun a b =>
    Nat.mul_lt_mul_right h
  simp only [← Nat.mul_assoc, hcompare]

/-- A quotient less than one half away from a natural number is rounded to it. -/
theorem roundedQuotient_eq {num den target : Nat} (hbelow : 2 * target * den < 2 * num + den)
    (habove : 2 * num < 2 * target * den + den) : roundedQuotient num den = target := by
  have hden : 0 < den := by
    rcases Nat.eq_zero_or_pos den with rfl | h
    · omega
    · exact h
  have hsplit := Nat.div_add_mod num den
  have hmod := Nat.mod_lt num hden
  unfold roundedQuotient
  generalize num / den = quotient at *
  generalize num % den = remainder at *
  subst hsplit
  have hle : quotient ≤ target := by
    by_contra hlt
    have : (target + 1) * den ≤ quotient * den := Nat.mul_le_mul_right den (by omega)
    nlinarith
  have hge : target ≤ quotient + 1 := by
    by_contra hlt
    have : (quotient + 2) * den ≤ target * den := Nat.mul_le_mul_right den (by omega)
    nlinarith
  rcases Nat.eq_or_lt_of_le hle with rfl | hlt
  · have : 2 * remainder < den := by nlinarith
    rw [if_pos this]
  · obtain rfl : target = quotient + 1 := by omega
    have : den < 2 * remainder := by nlinarith
    rw [if_neg (by omega), if_pos this]

theorem le_roundedQuotient {num den bound : Nat} (hden : 0 < den) (h : bound * den ≤ num) :
    bound ≤ roundedQuotient num den := by
  have hle : bound ≤ num / den := (Nat.le_div_iff_mul_le hden).2 h
  unfold roundedQuotient
  dsimp only
  split_ifs <;> omega

theorem roundedQuotient_le {num den bound : Nat} (hden : 0 < den) (h : num ≤ bound * den) :
    roundedQuotient num den ≤ bound := by
  have hsplit := Nat.div_add_mod num den
  have hmod := Nat.mod_lt num hden
  unfold roundedQuotient
  dsimp only
  generalize num / den = quotient at *
  generalize num % den = remainder at *
  have hle : quotient ≤ bound := by
    by_contra hlt
    have : (bound + 1) * den ≤ quotient * den := Nat.mul_le_mul_right den (by omega)
    nlinarith
  rcases Nat.eq_or_lt_of_le hle with rfl | hlt
  · -- nothing remains, so nothing is rounded up
    obtain rfl : remainder = 0 := by nlinarith
    rw [Nat.mul_zero, if_pos hden]
  · split_ifs <;> omega

theorem scaled_mul_right (num den factor : Nat) (exponent : Int) :
    scaled (num * factor) (den * factor) exponent =
      ((scaled num den exponent).1 * factor, (scaled num den exponent).2 * factor) := by
  unfold scaled
  split_ifs
  · rw [Nat.mul_right_comm]
  · rw [Nat.mul_right_comm]

/-- A scaled quotient is the quotient divided by the power of two. -/
theorem scaled_spec (num : Nat) {den : Nat} (h : 0 < den) (exponent : Int) :
    0 < (scaled num den exponent).2 ∧
      ((scaled num den exponent).1 : ℚ) / (scaled num den exponent).2 =
        (num : ℚ) / den / 2 ^ exponent := by
  unfold scaled
  split_ifs with hsign
  · obtain ⟨count, rfl⟩ := Int.eq_ofNat_of_zero_le hsign
    refine ⟨Nat.mul_pos h (Nat.pow_pos (by decide)), ?_⟩
    simp only [Int.toNat_natCast, Nat.pow_eq, Nat.cast_mul, Nat.cast_pow, Nat.cast_ofNat,
      zpow_natCast]
    rw [div_div]
  · obtain ⟨count, rfl⟩ : ∃ count : Nat, exponent = -(count : Int) :=
      ⟨(-exponent).toNat, by omega⟩
    refine ⟨h, ?_⟩
    simp only [neg_neg, Int.toNat_natCast, Nat.pow_eq, Nat.cast_mul, Nat.cast_pow, Nat.cast_ofNat,
      zpow_neg, zpow_natCast]
    field_simp

namespace Binary64

/-! ### The greatest power of two -/

theorem pow_log2_le {n : Nat} (h : 0 < n) : ((2 : ℚ) ^ (n.log2 : Int) ≤ n ∧
    (n : ℚ) < 2 ^ ((n.log2 : Int) + 1)) := by
  constructor
  · rw [zpow_natCast]
    exact_mod_cast Nat.log2_self_le h.ne'
  · rw [show ((n.log2 : Int) + 1) = ((n.log2 + 1 : Nat) : Int) by push_cast; rfl, zpow_natCast]
    exact_mod_cast Nat.lt_log2_self

/-- The leading exponent is that of the greatest power of two below the quotient. -/
theorem leadingExponent_spec {num den : Nat} (hnum : 0 < num) (hden : 0 < den) :
    (2 : ℚ) ^ leadingExponent num den ≤ (num : ℚ) / den ∧
      (num : ℚ) / den < 2 ^ (leadingExponent num den + 1) := by
  obtain ⟨hnum₁, hnum₂⟩ := pow_log2_le hnum
  obtain ⟨hden₁, hden₂⟩ := pow_log2_le hden
  have hdenq : (0 : ℚ) < den := by exact_mod_cast hden
  set guess : Int := (num.log2 : Int) - den.log2 with hguess
  have hlow : (2 : ℚ) ^ (guess - 1) < (num : ℚ) / den := by
    rw [lt_div_iff₀ hdenq]
    calc (2 : ℚ) ^ (guess - 1) * den < 2 ^ (guess - 1) * 2 ^ ((den.log2 : Int) + 1) := by
          gcongr
      _ = 2 ^ (num.log2 : Int) := by rw [← zpow_add₀ two_ne_zero]; congr 1; omega
      _ ≤ num := hnum₁
  have hhigh : (num : ℚ) / den < 2 ^ (guess + 1) := by
    rw [div_lt_iff₀ hdenq]
    calc (num : ℚ) < 2 ^ ((num.log2 : Int) + 1) := hnum₂
      _ = 2 ^ (guess + 1) * 2 ^ (den.log2 : Int) := by
          rw [← zpow_add₀ two_ne_zero]; congr 1; omega
      _ ≤ 2 ^ (guess + 1) * den := by gcongr
  obtain ⟨hpos, hscaled⟩ := scaled_spec num hden guess
  have hcompare : (scaled num den guess).1 < (scaled num den guess).2 ↔
      (num : ℚ) / den < 2 ^ guess := by
    have hposq : (0 : ℚ) < (scaled num den guess).2 := by exact_mod_cast hpos
    rw [← div_lt_one (by positivity : (0 : ℚ) < 2 ^ guess), ← hscaled, div_lt_one hposq]
    exact_mod_cast Iff.rfl
  unfold leadingExponent
  simp only [← hguess]
  split_ifs with h
  · refine ⟨hlow.le, ?_⟩
    rw [sub_add_cancel]
    exact hcompare.1 h
  · exact ⟨not_lt.1 fun hlt => h (hcompare.2 hlt), hhigh⟩

theorem leadingExponent_unique {num den : Nat} (hnum : 0 < num) (hden : 0 < den) {exponent : Int}
    (hlow : (2 : ℚ) ^ exponent ≤ (num : ℚ) / den)
    (hhigh : (num : ℚ) / den < 2 ^ (exponent + 1)) : leadingExponent num den = exponent := by
  obtain ⟨hlow', hhigh'⟩ := leadingExponent_spec hnum hden
  have h₁ := (zpow_lt_zpow_iff_right₀ (by norm_num : (1 : ℚ) < 2)).1 (hlow.trans_lt hhigh')
  have h₂ := (zpow_lt_zpow_iff_right₀ (by norm_num : (1 : ℚ) < 2)).1 (hlow'.trans_lt hhigh)
  omega

theorem leadingExponent_mul_right {num den factor : Nat} (hnum : 0 < num) (hden : 0 < den)
    (h : 0 < factor) : leadingExponent (num * factor) (den * factor) = leadingExponent num den := by
  obtain ⟨hlow, hhigh⟩ := leadingExponent_spec hnum hden
  have hsame : ((num * factor : Nat) : ℚ) / (den * factor : Nat) = (num : ℚ) / den := by
    push_cast
    exact mul_div_mul_right _ _ (by exact_mod_cast h.ne')
  refine leadingExponent_unique (Nat.mul_pos hnum h) (Nat.mul_pos hden h) ?_ ?_
  · rw [hsame]
    exact hlow
  · rw [hsame]
    exact hhigh

theorem nearest_mul_right (negative : Bool) (num : Nat) {den factor : Nat} (hden : 0 < den)
    (h : 0 < factor) : nearest negative (num * factor) (den * factor) = nearest negative num den := by
  rcases Nat.eq_zero_or_pos num with rfl | hnum
  · rw [Nat.zero_mul]
    rfl
  · unfold nearest
    rw [if_neg hnum.ne', if_neg (Nat.mul_pos hnum h).ne', leadingExponent_mul_right hnum hden h]
    simp only [scaled_mul_right, roundedQuotient_mul_right _ h]

/-- Equal quotients have the same nearest number. -/
theorem nearest_congr (negative : Bool) {num den num' den' : Nat} (hden : 0 < den)
    (hden' : 0 < den') (h : num * den' = num' * den) :
    nearest negative num den = nearest negative num' den' := by
  rw [← nearest_mul_right negative num hden hden', h, Nat.mul_comm den,
    nearest_mul_right negative num' hden' hden]

/-! ### Numbers that are rounded to -/

/-- A finite number as rounding gives it: its mantissa has 53 bits, or fewer at the lowest
exponent. -/
structure Canonical (mantissa : Nat) (exponent : Int) : Prop where
  bits : mantissa < 2 ^ 53
  lowest : -1074 ≤ exponent
  greatest : exponent ≤ 971
  leading : exponent = -1074 ∨ 2 ^ 52 ≤ mantissa

/-- A number that rounding can give. -/
def Normal : Binary64 → Prop
  | finite _ mantissa exponent => Canonical mantissa exponent
  | _ => True

/-- Rounding gives canonical numbers. -/
theorem normal_nearest (negative : Bool) {num den : Nat} (hden : 0 < den) :
    (nearest negative num den).Normal := by
  unfold nearest
  split_ifs with hzero
  · exact ⟨by decide, le_rfl, by decide, .inl rfl⟩
  have hnum : 0 < num := Nat.pos_of_ne_zero hzero
  obtain ⟨hlow, hhigh⟩ := leadingExponent_spec hnum hden
  set exponent : Int := max (-1074) (leadingExponent num den - 52) with hexponent
  obtain ⟨hpos, hscaled⟩ := scaled_spec num hden exponent
  have hposq : (0 : ℚ) < (scaled num den exponent).2 := by exact_mod_cast hpos
  have hmost : roundedQuotient (scaled num den exponent).1 (scaled num den exponent).2 ≤
      2 ^ 53 := by
    refine roundedQuotient_le hpos ?_
    have hquotient : ((scaled num den exponent).1 : ℚ) / (scaled num den exponent).2 ≤ 2 ^ 53 := by
      rw [hscaled, div_le_iff₀ (by positivity)]
      calc (num : ℚ) / den ≤ 2 ^ (leadingExponent num den + 1) := hhigh.le
        _ ≤ 2 ^ (53 + exponent) := zpow_le_zpow_right₀ (by norm_num) (by omega)
        _ = 2 ^ 53 * 2 ^ exponent := by rw [zpow_add₀ two_ne_zero]; rfl
    rw [div_le_iff₀ hposq] at hquotient
    exact_mod_cast hquotient
  have hleast : exponent = -1074 ∨ 2 ^ 52 ≤
      roundedQuotient (scaled num den exponent).1 (scaled num den exponent).2 := by
    rcases max_choice (-1074) (leadingExponent num den - 52) with hmax | hmax
    · exact .inl (hexponent.trans hmax)
    · refine .inr (le_roundedQuotient hpos ?_)
      have hquotient : (2 : ℚ) ^ 52 ≤
          ((scaled num den exponent).1 : ℚ) / (scaled num den exponent).2 := by
        rw [hscaled, le_div_iff₀ (by positivity)]
        calc (2 : ℚ) ^ 52 * 2 ^ exponent = 2 ^ (52 + exponent) := by
              rw [zpow_add₀ two_ne_zero]; rfl
          _ = 2 ^ leadingExponent num den := by congr 1; omega
          _ ≤ num / den := hlow
      rw [le_div_iff₀ hposq] at hquotient
      exact_mod_cast hquotient
  have hlowest : -1074 ≤ exponent := le_max_left _ _
  dsimp only
  generalize roundedQuotient (scaled num den exponent).1 (scaled num den exponent).2 = mantissa at *
  rw [Nat.pow_eq, Nat.pow_eq]
  by_cases hcarry : mantissa = 2 ^ 53
  · rw [if_pos hcarry]
    dsimp only
    split_ifs with hlarge
    · trivial
    · exact ⟨by decide, by omega, by omega, .inr le_rfl⟩
  · rw [if_neg hcarry]
    dsimp only
    split_ifs with hlarge
    · trivial
    · exact ⟨lt_of_le_of_ne hmost hcarry, hlowest, by omega, hleast⟩

/-- A quotient less than one half away from a mantissa, at the exponent that rounding chooses. -/
theorem roundedQuotient_scaled {num den target : Nat} (hden : 0 < den) {exponent : Int}
    (hbelow : (target : ℚ) - 1 / 2 < (num : ℚ) / den / 2 ^ exponent)
    (habove : (num : ℚ) / den / 2 ^ exponent < (target : ℚ) + 1 / 2) :
    roundedQuotient (scaled num den exponent).1 (scaled num den exponent).2 = target := by
  obtain ⟨hpos, hscaled⟩ := scaled_spec num hden exponent
  have hposq : (0 : ℚ) < (scaled num den exponent).2 := by exact_mod_cast hpos
  rw [← hscaled] at hbelow habove
  rw [lt_div_iff₀ hposq] at hbelow
  rw [div_lt_iff₀ hposq] at habove
  refine roundedQuotient_eq ?_ ?_
  · have h : 2 * (target : ℚ) * (scaled num den exponent).2 <
        2 * (scaled num den exponent).1 + (scaled num den exponent).2 := by linarith
    exact_mod_cast h
  · have h : 2 * ((scaled num den exponent).1 : ℚ) <
        2 * target * (scaled num den exponent).2 + (scaled num den exponent).2 := by linarith
    exact_mod_cast h

/-- A value close to a canonical number is rounded to it. What is close enough is the same on both
sides, though below a power of two the numbers lie closer together. -/
theorem nearest_eq (negative : Bool) {num den mantissa : Nat} {exponent : Int} (hnum : 0 < num)
    (hden : 0 < den) (hcanonical : Canonical mantissa exponent)
    (hbelow : (mantissa : ℚ) * 2 ^ exponent * (1 - 1 / 2 ^ 54) < (num : ℚ) / den)
    (habove : (num : ℚ) / den < (mantissa : ℚ) * 2 ^ exponent * (1 + 1 / 2 ^ 54)) :
    nearest negative num den = finite negative mantissa exponent := by
  obtain ⟨hlow, hhigh⟩ := leadingExponent_spec hnum hden
  have hpow : (0 : ℚ) < 2 ^ exponent := by positivity
  have hbits : (mantissa : ℚ) ≤ 2 ^ 53 - 1 := by
    have h : (mantissa : ℚ) + 1 ≤ 2 ^ 53 := by exact_mod_cast hcanonical.bits
    linarith
  set value : ℚ := (num : ℚ) / den with hvalue
  have hmost : leadingExponent num den < 53 + exponent := by
    rw [← zpow_lt_zpow_iff_right₀ (by norm_num : (1 : ℚ) < 2)]
    calc (2 : ℚ) ^ leadingExponent num den ≤ value := hlow
      _ < mantissa * 2 ^ exponent * (1 + 1 / 2 ^ 54) := habove
      _ ≤ (2 ^ 53 - 1) * 2 ^ exponent * (1 + 1 / 2 ^ 54) := by gcongr
      _ ≤ 2 ^ 53 * 2 ^ exponent := by nlinarith
      _ = 2 ^ (53 + exponent) := by rw [zpow_add₀ two_ne_zero]; rfl
  -- a mantissa of 53 bits may be approached from the exponent below, but then it is a power of two
  have hchoice : max (-1074) (leadingExponent num den - 52) = exponent ∨
      max (-1074) (leadingExponent num den - 52) = exponent - 1 ∧ mantissa = 2 ^ 52 := by
    rcases hcanonical.leading with hlowest | hleading
    · left
      have := hcanonical.lowest
      omega
    · have hleast : (2 : ℚ) ^ 52 ≤ mantissa := by exact_mod_cast hleading
      have hmore : 51 + exponent < leadingExponent num den + 1 := by
        rw [← zpow_lt_zpow_iff_right₀ (by norm_num : (1 : ℚ) < 2)]
        calc (2 : ℚ) ^ (51 + exponent) = 2 ^ 51 * 2 ^ exponent := by
              rw [zpow_add₀ two_ne_zero]; rfl
          _ ≤ 2 ^ 52 * 2 ^ exponent * (1 - 1 / 2 ^ 54) := by nlinarith
          _ ≤ mantissa * 2 ^ exponent * (1 - 1 / 2 ^ 54) := by
              have : (0 : ℚ) ≤ 1 - 1 / 2 ^ 54 := by norm_num
              gcongr
          _ < value := hbelow
          _ < 2 ^ (leadingExponent num den + 1) := hhigh
      have hlowest := hcanonical.lowest
      by_cases hsame : leadingExponent num den = 52 + exponent
      · left
        omega
      · have hless : leadingExponent num den + 1 = 52 + exponent := by omega
        by_cases hmin : exponent = -1074
        · left
          omega
        refine .inr ⟨by omega, ?_⟩
        have hupper : (mantissa : ℚ) * 2 ^ exponent * (1 - 1 / 2 ^ 54) < 2 ^ 52 * 2 ^ exponent := by
          calc (mantissa : ℚ) * 2 ^ exponent * (1 - 1 / 2 ^ 54) < value := hbelow
            _ < 2 ^ (leadingExponent num den + 1) := hhigh
            _ = 2 ^ 52 * 2 ^ exponent := by rw [hless, zpow_add₀ two_ne_zero]; rfl
        have hless : (mantissa : ℚ) < 2 ^ 52 + 1 := by nlinarith
        have : mantissa < 2 ^ 52 + 1 := by exact_mod_cast hless
        omega
  unfold nearest
  rw [if_neg hnum.ne']
  dsimp only
  rw [Nat.pow_eq, Nat.pow_eq]
  rcases hchoice with hexponent | ⟨hexponent, rfl⟩
  · have hrounded : roundedQuotient (scaled num den exponent).1 (scaled num den exponent).2 =
        mantissa := by
      refine roundedQuotient_scaled hden ?_ ?_
      · rw [lt_div_iff₀ hpow]
        nlinarith
      · rw [div_lt_iff₀ hpow]
        nlinarith
    rw [hexponent, hrounded, if_neg hcanonical.bits.ne]
    dsimp only
    rw [if_neg (not_lt.2 hcanonical.greatest)]
  · have hhalf : (2 : ℚ) ^ (exponent - 1) = 2 ^ exponent / 2 := by
      rw [zpow_sub₀ two_ne_zero, zpow_one]
    have hrounded : roundedQuotient (scaled num den (exponent - 1)).1
        (scaled num den (exponent - 1)).2 = 2 ^ 53 := by
      push_cast at hbelow habove
      refine roundedQuotient_scaled hden ?_ ?_
      · rw [hhalf, lt_div_iff₀ (by positivity)]
        push_cast
        nlinarith
      · rw [hhalf, div_lt_iff₀ (by positivity)]
        push_cast
        nlinarith
    rw [hexponent, hrounded, if_pos rfl]
    dsimp only
    rw [sub_add_cancel, if_neg (not_lt.2 hcanonical.greatest)]

end Binary64

namespace Binary64

theorem normal_zero : zero.Normal := ⟨by decide, le_rfl, by decide, .inl rfl⟩

theorem normal_ofRat (value : Rat) : (ofRat value).Normal := normal_nearest _ value.den_pos

theorem ofRat?_eq_some {value : Rat} {number : Binary64} (h : ofRat? value = some number) :
    number = ofRat value ∧ ∀ negative, number ≠ infinite negative := by
  unfold ofRat? at h
  split at h
  · cases h
  · next hother =>
    cases h
    exact ⟨rfl, fun negative heq => hother negative heq⟩

theorem nearest_ne_nan (negative : Bool) (num den : Nat) : nearest negative num den ≠ nan := by
  unfold nearest
  split_ifs
  · exact nofun
  · dsimp only
    split_ifs <;> exact nofun

theorem isFinite_of_ne {number : Binary64} (hnan : number ≠ nan)
    (h : ∀ negative, number ≠ infinite negative) : number.isFinite = true := by
  cases number with
  | nan => exact absurd rfl hnan
  | infinite negative => exact absurd rfl (h negative)
  | finite => rfl

theorem isFinite_of_ofRat? {value : Rat} {number : Binary64} (h : ofRat? value = some number) :
    number.isFinite = true ∧ number.Normal := by
  obtain ⟨rfl, hfinite⟩ := ofRat?_eq_some h
  exact ⟨isFinite_of_ne (nearest_ne_nan _ _ _) hfinite, normal_ofRat value⟩

theorem normal_mul (x y : Binary64) : (x.mul y).Normal := by
  unfold mul
  dsimp only
  split
  · exact normal_nearest _ (Rat.den_pos _)
  · split_ifs <;> trivial

theorem normal_div (x y : Binary64) : (x.div y).Normal := by
  unfold div
  dsimp only
  split
  · split_ifs
    · trivial
    · trivial
    · exact normal_nearest _ (Rat.den_pos _)
  · split_ifs
    · trivial
    · exact ⟨by decide, le_rfl, by decide, .inl rfl⟩
  · split_ifs <;> trivial
  · trivial

theorem normal_abs {x : Binary64} (h : x.Normal) : x.abs.Normal := by
  cases x <;> exact h

theorem normal_add (x y : Binary64) : (x.add y).Normal := by
  cases x with
  | nan => trivial
  | infinite negative =>
    cases y with
    | nan => trivial
    | infinite other =>
      unfold add
      dsimp only
      split_ifs <;> trivial
    | finite => trivial
  | finite =>
    cases y with
    | nan => trivial
    | infinite other => trivial
    | finite =>
      unfold add
      dsimp only
      split_ifs
      · exact normal_nearest _ Nat.one_pos
      · exact normal_ofRat _

theorem normal_sub (x y : Binary64) : (x.sub y).Normal := normal_add x y.neg

/-- A product with a finite factor other than zero is a number. -/
theorem mul_ne_nan {x y : Binary64} (hx : x ≠ nan) (hfinite : y.isFinite = true)
    (hzero : y.isZero = false) : x.mul y ≠ nan := by
  cases y with
  | nan => cases hfinite
  | infinite negative => cases hfinite
  | finite negative mantissa exponent =>
    cases x with
    | nan => exact absurd rfl hx
    | infinite other =>
      simp only [mul, toRat?]
      simp [isZero] at hzero ⊢
      exact hzero
    | finite other => exact nearest_ne_nan _ _ _

theorem lt_self (x : Binary64) : x.lt x = false := by
  cases x with
  | nan => rfl
  | infinite negative => cases negative <;> rfl
  | finite => exact decide_eq_false (lt_irrefl _)

end Binary64

/-! ### Beyond the largest number

The middle between it and the next power of two is a tie, which goes to the even side, and that is the
power. -/

/-- A quotient reaches an even number by rounding from one half below that number on. -/
theorem le_roundedQuotient_iff_of_even {num den target : Nat} (hden : 0 < den) (hpos : 0 < target)
    (heven : target % 2 = 0) :
    target ≤ roundedQuotient num den ↔ (2 * target - 1) * den ≤ 2 * num := by
  have hsplit := Nat.div_add_mod num den
  have hmod := Nat.mod_lt num hden
  unfold roundedQuotient
  dsimp only
  generalize num / den = quotient at *
  generalize num % den = remainder at *
  have hodd : 2 * target - 1 + 1 = 2 * target := by omega
  rcases Nat.lt_trichotomy (quotient + 1) target with hbelow | rfl | habove
  · -- even rounded up the quotient stays below
    have hnum : 2 * num < (2 * target - 1) * den := by nlinarith
    have hrounded : ¬target ≤ if 2 * remainder < den then quotient
        else if den < 2 * remainder then quotient + 1 else quotient + quotient % 2 := by
      split_ifs <;> omega
    exact iff_of_false hrounded (not_le.2 hnum)
  · have hhalf : (2 * (quotient + 1) - 1) * den ≤ 2 * num ↔ den ≤ 2 * remainder := by
      have hwide : 2 * (quotient + 1) - 1 = 2 * quotient + 1 := by omega
      rw [hwide, ← hsplit]
      constructor <;> intro h <;> nlinarith
    rw [hhalf]
    split_ifs <;> omega
  · have hnum : (2 * target - 1) * den ≤ 2 * num := by nlinarith
    refine iff_of_true ?_ hnum
    split_ifs <;> omega

namespace Binary64

/-- The least value that is rounded beyond the largest binary number. -/
def overflow : Nat := (2 ^ 54 - 1) * 2 ^ 970

theorem overflow_pos : 0 < overflow := by
  rw [overflow]
  positivity

theorem overflow_cast : (overflow : ℚ) = (2 ^ 54 - 1) * 2 ^ (970 : Int) := by
  have hpower : ((2 ^ 970 : Nat) : ℚ) = 2 ^ (970 : Int) := by
    rw [Nat.cast_pow, Nat.cast_ofNat]
    exact (zpow_natCast 2 970).symm
  have hmantissa : ((2 ^ 54 - 1 : Nat) : ℚ) = 2 ^ 54 - 1 := by norm_num
  rw [overflow, Nat.cast_mul, hpower, hmantissa]

theorem overflow_le_iff {num den : Nat} (hden : 0 < den) :
    overflow * den ≤ num ↔ (2 ^ 54 - 1) * (2 : ℚ) ^ (970 : Int) ≤ (num : ℚ) / den := by
  have hdenq : (0 : ℚ) < den := by exact_mod_cast hden
  rw [le_div_iff₀ hdenq, ← overflow_cast]
  exact_mod_cast Iff.rfl

/-- At the greatest exponent of a number, rounding carries into the next power of two exactly from
that bound on. -/
theorem roundedQuotient_eq_carry_iff {num den : Nat} (hden : 0 < den)
    (h : (num : ℚ) / den ≤ 2 ^ (1024 : Int)) :
    roundedQuotient (scaled num den 971).1 (scaled num den 971).2 = 2 ^ 53 ↔
      overflow * den ≤ num := by
  obtain ⟨hpos, hscaled⟩ := scaled_spec num hden 971
  have hposq : (0 : ℚ) < (scaled num den 971).2 := by exact_mod_cast hpos
  have hmost : roundedQuotient (scaled num den 971).1 (scaled num den 971).2 ≤ 2 ^ 53 := by
    have hquotient : ((scaled num den 971).1 : ℚ) / (scaled num den 971).2 ≤ 2 ^ 53 := by
      rw [hscaled, div_le_iff₀ (by positivity)]
      calc (num : ℚ) / den ≤ 2 ^ (53 + 971 : Int) := h
        _ = 2 ^ 53 * 2 ^ (971 : Int) := by rw [zpow_add₀ two_ne_zero]; rfl
    rw [div_le_iff₀ hposq] at hquotient
    exact roundedQuotient_le hpos (by exact_mod_cast hquotient)
  have hwhole : (num : ℚ) / den =
      2 * (scaled num den 971).1 / (scaled num den 971).2 * 2 ^ (970 : Int) := by
    rw [mul_div_assoc, hscaled, show (971 : Int) = 1 + 970 from rfl, zpow_add₀ two_ne_zero, zpow_one]
    field_simp
  have hmantissa : (2 : ℚ) ^ 54 - 1 = (2 * 2 ^ 53 - 1 : Nat) := by norm_num
  rw [← hmost.ge_iff_eq, le_roundedQuotient_iff_of_even hpos (by decide) (by decide),
    overflow_le_iff hden, hwhole, mul_le_mul_iff_left₀ (by positivity), le_div_iff₀ hposq, hmantissa]
  exact_mod_cast Iff.rfl

/-- Rounding stays within the binary numbers exactly below that bound. -/
theorem isFinite_nearest_iff (negative : Bool) {num den : Nat} (hden : 0 < den) :
    (nearest negative num den).isFinite = true ↔ ¬overflow * den ≤ num := by
  unfold nearest
  split_ifs with hzero
  · refine iff_of_true rfl ?_
    rw [overflow_le_iff hden, hzero, Nat.cast_zero, zero_div]
    norm_num
  obtain ⟨hlow, hhigh⟩ := leadingExponent_spec (Nat.pos_of_ne_zero hzero) hden
  generalize hexponent : max (-1074) (leadingExponent num den - 52) = exponent
  dsimp only
  rw [Nat.pow_eq, Nat.pow_eq]
  rcases lt_trichotomy exponent 971 with hsmall | rfl | hlarge
  · have hless : (num : ℚ) / den < (2 ^ 54 - 1) * 2 ^ (970 : Int) := by
      calc (num : ℚ) / den < 2 ^ (leadingExponent num den + 1) := hhigh
        _ ≤ 2 ^ (53 + 970 : Int) := zpow_le_zpow_right₀ (by norm_num) (by omega)
        _ = 2 ^ 53 * 2 ^ (970 : Int) := by rw [zpow_add₀ two_ne_zero]; rfl
        _ ≤ (2 ^ 54 - 1) * 2 ^ (970 : Int) := by gcongr; norm_num
    rw [overflow_le_iff hden]
    refine iff_of_true ?_ (not_le.2 hless)
    split_ifs with hcarry hbeyond hbeyond
    · omega
    · rfl
    · omega
    · rfl
  · -- only the carry leads beyond
    have hmost : (num : ℚ) / den ≤ 2 ^ (1024 : Int) :=
      hhigh.le.trans (zpow_le_zpow_right₀ (by norm_num) (by omega))
    rw [← roundedQuotient_eq_carry_iff hden hmost]
    split_ifs with hcarry hbeyond hbeyond
    · exact iff_of_false nofun (not_not.2 hcarry)
    · exact absurd (by decide) hbeyond
    · exact absurd hbeyond (lt_irrefl 971)
    · exact iff_of_true rfl hcarry
  · have hmore : (2 ^ 54 - 1) * (2 : ℚ) ^ (970 : Int) ≤ (num : ℚ) / den := by
      calc (2 ^ 54 - 1) * (2 : ℚ) ^ (970 : Int) ≤ 2 ^ 54 * 2 ^ (970 : Int) := by gcongr; norm_num
        _ = 2 ^ (54 + 970 : Int) := by rw [zpow_add₀ two_ne_zero]; rfl
        _ ≤ 2 ^ leadingExponent num den := zpow_le_zpow_right₀ (by norm_num) (by omega)
        _ ≤ (num : ℚ) / den := hlow
    rw [overflow_le_iff hden]
    refine iff_of_false ?_ (not_not.2 hmore)
    split_ifs with hcarry hbeyond
    · exact nofun
    · exact absurd (by omega) hbeyond
    · exact nofun

theorem isSome_ofRat?_iff (value : Rat) :
    (ofRat? value).isSome = true ↔ (ofRat value).isFinite = true := by
  have hnan : ofRat value ≠ nan := nearest_ne_nan _ _ _
  unfold ofRat?
  cases hnumber : ofRat value with
  | nan => exact absurd hnumber hnan
  | infinite negative => exact iff_of_false nofun nofun
  | finite negative mantissa exponent => exact iff_of_true rfl rfl

/-- A mean is a binary number exactly if the total is less than that bound for each of the summands. -/
theorem isSome_ofRat?_div_iff (total : Nat) {count : Nat} (h : 0 < count) :
    (ofRat? ((total : Rat) / (count : Rat))).isSome = true ↔ total < overflow * count := by
  set mean : Rat := (total : Rat) / (count : Rat) with hmean
  have hcount : (count : Rat) ≠ 0 := by exact_mod_cast h.ne'
  have hsame : mean.num.natAbs * count = total * mean.den := by
    have hnonneg : 0 ≤ mean.num := Rat.num_nonneg.2 (by positivity)
    have hcross : (mean.num : Rat) * count = total * mean.den := by
      rw [← Rat.mul_den_eq_num mean, hmean]
      field_simp
    have hcrossed : mean.num * count = total * mean.den := by exact_mod_cast hcross
    rw [← Int.natAbs_of_nonneg hnonneg] at hcrossed
    exact_mod_cast hcrossed
  rw [isSome_ofRat?_iff, ofRat, nearest_congr _ mean.den_pos h hsame, isFinite_nearest_iff _ h,
    not_le]

end Binary64
/-! ### Arithmetic as a parameter -/

/-- The exact value of a finite number. -/
def Binary64.value (number : Binary64) : Rat := number.toRat?.getD 0

/-- Arithmetic on numbers of a kind. -/
structure Arithmetic (α : Type) where
  /-- What a stored number stands for. -/
  read : Binary64 → α
  ofRat : Rat → α
  /-- A rational as a number, none when it is beyond all of them. -/
  ofRat? : Rat → Option α
  lt : α → α → Bool
  sub : α → α → α
  mul : α → α → α
  div : α → α → α
  abs : α → α

namespace Arithmetic

/-- Binary numbers, with one rounding for each operation. -/
def binary : Arithmetic Binary64 where
  read := id
  ofRat := .ofRat
  ofRat? := Binary64.ofRat?
  lt := Binary64.lt
  sub := .sub
  mul := .mul
  div := .div
  abs := .abs

/-- Exact arithmetic: nothing is rounded, and no number is too large. -/
def rational : Arithmetic Rat where
  read := Binary64.value
  ofRat := id
  ofRat? := some
  lt x y := decide (x < y)
  sub x y := x - y
  mul x y := x * y
  div x y := x / y
  abs x := |x|

end Arithmetic

/-- Finite numbers are compared by their exact values. -/
theorem Binary64.lt_of_isFinite {x y : Binary64} (hx : x.isFinite = true) (hy : y.isFinite = true) :
    x.lt y = decide (x.value < y.value) := by
  cases x with
  | finite negative mantissa exponent =>
    cases y with
    | finite other mantissa' exponent' => rfl
    | nan => cases hy
    | infinite other => cases hy
  | nan => cases hx
  | infinite negative => cases hx

end KotlinAudit.Decimal
