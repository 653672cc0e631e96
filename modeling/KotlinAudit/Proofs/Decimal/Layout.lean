import KotlinAudit.Proofs.Decimal.Shortest
import Mathlib.Data.List.TakeWhile

/-! The text of a binary number in a data file is read back as the same number. -/
namespace KotlinAudit.Decimal

open Text (isAsciiDigit)

/-- Digits that stand for a positive number at the place of their point. -/
structure Digits.Spells (found : Digits) (mantissa : Nat) (exponent : Int) : Prop where
  ne_nil : found.digits ≠ []
  digital : ∀ c ∈ found.digits, isAsciiDigit c = true
  leading : found.digits.head? ≠ some '0'
  bound : natOfDigits found.digits ≤ 10 ^ 20
  lowest : -342 ≤ found.point - found.digits.length
  greatest : found.point - found.digits.length ≤ 330
  reads : Binary64.ofDecimal false (natOfDigits found.digits) (found.point - found.digits.length) =
    .finite false mantissa exponent

/-- A text is its digits up to the last that is not zero, and zeros. -/
theorem exists_trailing_zeros (text : List Char) : ∃ count,
    text = (text.reverse.dropWhile (· == '0')).reverse ++ List.replicate count '0' := by
  refine ⟨(text.reverse.takeWhile (· == '0')).length, ?_⟩
  have hzeros : text.reverse.takeWhile (· == '0') =
      List.replicate (text.reverse.takeWhile (· == '0')).length '0' := by
    refine List.eq_replicate_iff.2 ⟨rfl, fun c hc => ?_⟩
    exact beq_iff_eq.1 (List.mem_takeWhile_imp (p := (· == '0')) hc)
  calc text = text.reverse.reverse := (List.reverse_reverse _).symm
    _ = (text.reverse.takeWhile (· == '0') ++ text.reverse.dropWhile (· == '0')).reverse := by
        rw [List.takeWhile_append_dropWhile]
    _ = (text.reverse.dropWhile (· == '0')).reverse ++
          (text.reverse.takeWhile (· == '0')).reverse := List.reverse_append
    _ = _ := by
        conv_lhs => rw [hzeros, List.reverse_replicate]

theorem length_toString_le {n : Nat} (h : n ≤ 10 ^ 20) : (toString n).toList.length ≤ 21 := by
  rw [Nat.toString_eq_repr, Nat.toList_repr, Nat.length_toDigits_le_iff (by decide) (by decide)]
  omega

theorem shortestDigits_spells {mantissa : Nat} {exponent : Int}
    (hcanonical : Binary64.Canonical mantissa exponent) (hmantissa : 0 < mantissa) :
    (shortestDigits mantissa exponent).Spells mantissa exponent := by
  obtain ⟨digits, unit, hfound, hpos, hbound, hlowest, hgreatest, hreads⟩ :=
    foundDigits_spec hcanonical hmantissa
  have hshortest : shortestDigits mantissa exponent =
      ⟨((toString digits).toList.reverse.dropWhile (· == '0')).reverse,
        (toString digits).toList.length + unit⟩ := by
    change (⟨((toString ((foundDigits mantissa exponent).getD (0, 0)).1).toList.reverse.dropWhile
        (· == '0')).reverse, (toString ((foundDigits mantissa exponent).getD (0, 0)).1).toList.length +
        ((foundDigits mantissa exponent).getD (0, 0)).2⟩ : Digits) = _
    rw [hfound]
    rfl
  obtain ⟨count, hsplit⟩ := exists_trailing_zeros (toString digits).toList
  have hdigital := isAsciiDigit_toString digits
  have hvalue := natOfDigits_toString digits
  have hhead := head?_toString hpos
  have hlength := length_toString_le hbound
  rw [hshortest]
  generalize ((toString digits).toList.reverse.dropWhile (· == '0')).reverse = kept at *
  rw [hsplit] at hdigital hvalue hhead hlength
  have hkept : ∀ c ∈ kept, isAsciiDigit c = true :=
    fun c hc => hdigital c (List.mem_append_left _ hc)
  rw [natOfDigits_append_zeros hkept] at hvalue
  rw [List.length_append, List.length_replicate] at hlength
  have hne : kept ≠ [] := by
    rintro rfl
    rw [show natOfDigits [] = 0 from rfl, Nat.zero_mul] at hvalue
    omega
  have hle : natOfDigits kept ≤ 10 ^ 20 := by
    refine le_trans ?_ hbound
    rw [← hvalue]
    exact Nat.le_mul_of_pos_right _ (Nat.pow_pos (by decide))
  have hplace : ((toString digits).toList.length : Int) + unit - kept.length = unit + count := by
    rw [hsplit, List.length_append, List.length_replicate]
    push_cast
    omega
  have hleast : 0 < kept.length := List.length_pos_iff.2 hne
  refine ⟨hne, hkept, ?_, hle, ?_, ?_, ?_⟩
  · cases kept with
    | nil => exact absurd rfl hne
    | cons c rest => exact hhead
  · rw [hplace]
    omega
  · rw [hplace]
    omega
  · rw [hplace, ← hreads, ← hvalue]
    have hrange : InRange (natOfDigits kept) (unit + count) := ⟨by omega, by omega, by omega⟩
    have hshift := Binary64.ofDecimal_shift false count hrange
      ⟨by rw [hvalue]; omega, by omega, by omega⟩
    rw [add_sub_cancel_right] at hshift
    exact hshift.symm

/-! ### Texts -/

/-- The exponent at the end of a text, if there is one. -/
inductive ExponentText : List Char → Int → Prop
  | none : ExponentText [] 0
  | signed {sign : Char} {digits : List Char} (hsign : sign = '-' ∨ sign = '+')
      (h : ∀ c ∈ digits, isAsciiDigit c = true) (hne : digits ≠ []) :
      ExponentText ('e' :: sign :: digits)
        (if sign = '-' then -(natOfDigits digits : Int) else natOfDigits digits)

/-- The text of a number with a fraction or an exponent, by its digits and the exponent of ten of
the last of them. -/
inductive FractionalText (negative : Bool) : List Char → Nat → Int → Prop
  | point {front fraction rest : List Char} {exponent : Int} (hfront : Front front)
      (hfraction : ∀ c ∈ fraction, isAsciiDigit c = true) (hne : fraction ≠ [])
      (hrest : ExponentText rest exponent) :
      FractionalText negative (signText negative ++ (front ++ '.' :: (fraction ++ rest)))
        (natOfDigits (front ++ fraction)) (exponent - fraction.length)
  | exponent {front rest : List Char} {exponent : Int} (hfront : Front front)
      (hrest : ExponentText ('e' :: rest) exponent) :
      FractionalText negative (signText negative ++ (front ++ 'e' :: rest)) (natOfDigits front)
        exponent

theorem ExponentText.exponent?_eq {rest : List Char} {exponent : Int}
    (h : ExponentText rest exponent) : exponent? rest = some exponent := by
  cases h with
  | none => rfl
  | signed hsign hdigits hne => exact exponent?_signed hsign hdigits hne

theorem FractionalText.read?_eq {negative : Bool} {text : List Char} {digits : Nat} {exponent : Int}
    (h : FractionalText negative text digits exponent) :
    Numeral.read? text = some (.fractional (.ofDecimal negative digits exponent)) := by
  cases h with
  | point hfront hfraction hne hrest =>
    refine read?_fraction negative hfront hfraction hne ?_ hrest.exponent?_eq
    cases hrest with
    | none => exact fun c hc => by cases hc
    | signed => exact fun c hc => by cases hc; decide
  | exponent hfront hrest => exact read?_exponent negative hfront hrest.exponent?_eq

theorem ExponentText.mem {rest : List Char} {exponent : Int} (h : ExponentText rest exponent)
    {c : Char} (hc : c ∈ rest) : isAsciiDigit c = true ∨ c ∈ ['-', '+', '.', 'e'] := by
  cases h with
  | none => cases hc
  | signed hsign hdigits =>
    rcases List.mem_cons.1 hc with rfl | hc
    · exact .inr (by decide)
    rcases List.mem_cons.1 hc with rfl | hc
    · rcases hsign with rfl | rfl <;> exact .inr (by decide)
    · exact .inl (hdigits c hc)

theorem mem_signText {negative : Bool} {c : Char} (h : c ∈ signText negative) : c = '-' := by
  cases negative with
  | true => exact List.mem_singleton.1 h
  | false => cases h

/-- The characters that the text of a number is made of. -/
theorem FractionalText.mem {negative : Bool} {text : List Char} {digits : Nat} {exponent : Int}
    (h : FractionalText negative text digits exponent) {c : Char} (hc : c ∈ text) :
    isAsciiDigit c = true ∨ c ∈ ['-', '+', '.', 'e'] := by
  have hsign : c ∈ signText negative → c ∈ ['-', '+', '.', 'e'] := by
    intro hc
    rw [mem_signText hc]
    decide
  cases h with
  | point hfront hfraction hne hrest =>
    simp only [List.mem_append, List.mem_cons (a := c) (b := '.')] at hc
    rcases hc with hc | hc | rfl | hc | hc
    · exact .inr (hsign hc)
    · exact .inl (hfront.digital c hc)
    · exact .inr (by decide)
    · exact .inl (hfraction c hc)
    · exact hrest.mem hc
  | exponent hfront hrest =>
    rcases List.mem_append.1 hc with hc | hc
    · exact .inr (hsign hc)
    rcases List.mem_append.1 hc with hc | hc
    · exact .inl (hfront.digital c hc)
    · exact hrest.mem hc

theorem FractionalText.ne_nil {negative : Bool} {text : List Char} {digits : Nat} {exponent : Int}
    (h : FractionalText negative text digits exponent) : text ≠ [] := by
  cases h <;> simp

theorem exponentText_spec (exponent : Int) :
    ExponentText ('e' :: exponentText .dataFile exponent) exponent := by
  have hdigits := isAsciiDigit_toString exponent.natAbs
  have hne := toString_toList_ne_nil exponent.natAbs
  have hvalue := natOfDigits_toString exponent.natAbs
  have hzeros : zeros ((Layout.dataFile.exponentDigits : Int) -
      ((toString exponent.natAbs).toList.length : Nat)) = [] := by
    have hpos := List.length_pos_iff.2 hne
    have hcount : ((Layout.dataFile.exponentDigits : Int) -
        ((toString exponent.natAbs).toList.length : Nat)).toNat = 0 := by
      change ((1 : Int) - _).toNat = 0
      omega
    rw [zeros, hcount]
    rfl
  unfold exponentText
  dsimp only
  rw [hzeros, List.append_nil]
  generalize (toString exponent.natAbs).toList = digits at *
  by_cases hnegative : exponent < 0
  · have hsigned := ExponentText.signed (.inl rfl) hdigits hne
    rw [if_pos hnegative]
    rw [if_pos rfl, hvalue, show -(exponent.natAbs : Int) = exponent by omega] at hsigned
    exact hsigned
  · have hsigned := ExponentText.signed (.inr rfl) hdigits hne
    rw [if_neg hnegative]
    rw [if_neg (by decide), hvalue, show (exponent.natAbs : Int) = exponent by omega] at hsigned
    exact hsigned

theorem isAsciiDigit_of_mem_replicate {count : Nat} {c : Char}
    (h : c ∈ List.replicate count '0') : isAsciiDigit c = true := by
  rw [List.eq_of_mem_replicate h]
  rfl

/-- Digits in front of a point, cut off from digits that do not start with a zero. -/
theorem Front.of_append {front : List Char} (rest : List Char) (hne : front ≠ [])
    (hdigital : ∀ c ∈ front, isAsciiDigit c = true)
    (hleading : (front ++ rest).head? ≠ some '0') : Front front := by
  refine ⟨hne, hdigital, .inr ?_⟩
  cases front with
  | nil => exact absurd rfl hne
  | cons c front => exact hleading

/-! ### The ways in which digits are laid out -/

section Layouts

variable {digits : List Char} {point : Int} {width : Nat}

theorem FractionalText.belowOne (negative : Bool) (hne : digits ≠ [])
    (hdigital : ∀ c ∈ digits, isAsciiDigit c = true) (hpoint : point ≤ 0) :
    FractionalText negative (signText negative ++ (['0', '.'] ++ zeros (-point) ++ digits))
      (natOfDigits digits) (point - digits.length) := by
  have htext : FractionalText negative (signText negative ++
      (['0'] ++ '.' :: ((zeros (-point) ++ digits) ++ [])))
      (natOfDigits (['0'] ++ (zeros (-point) ++ digits))) (0 - (zeros (-point) ++ digits).length) := by
    refine .point ⟨by simp, List.forall_mem_singleton.2 rfl, .inl rfl⟩ ?_ ?_ .none
    · intro c hc
      exact (List.mem_append.1 hc).elim isAsciiDigit_of_mem_replicate (hdigital c)
    · simp [hne]
  have hvalue : natOfDigits (['0'] ++ (zeros (-point) ++ digits)) = natOfDigits digits := by
    rw [← List.append_assoc]
    exact natOfDigits_zeros_append hdigital ((-point).toNat + 1)
  have hplace : (0 : Int) - (zeros (-point) ++ digits).length = point - digits.length := by
    rw [List.length_append, zeros, List.length_replicate]
    omega
  rw [hvalue, hplace, List.append_nil] at htext
  exact htext

/-- A whole number is filled up with zeros and gets one more behind the point. -/
theorem FractionalText.whole (negative : Bool) (hne : digits ≠ [])
    (hdigital : ∀ c ∈ digits, isAsciiDigit c = true) (hleading : digits.head? ≠ some '0')
    (hall : digits.length ≤ width) :
    FractionalText negative (signText negative ++ (digits ++ zeros ((width : Int) - digits.length) ++ ['.'] ++ ['0']))
      (natOfDigits digits * 10 ^ (width - digits.length + 1)) (-1) := by
  have hfront : Front (digits ++ zeros ((width : Int) - digits.length)) := by
    refine ⟨by simp [hne], ?_, .inr ?_⟩
    · intro c hc
      exact (List.mem_append.1 hc).elim (hdigital c) isAsciiDigit_of_mem_replicate
    · cases digits with
      | nil => exact absurd rfl hne
      | cons c rest => exact hleading
  have htext : FractionalText negative (signText negative ++
      ((digits ++ zeros ((width : Int) - digits.length)) ++ '.' :: (['0'] ++ [])))
      (natOfDigits (digits ++ zeros ((width : Int) - digits.length) ++ ['0']))
      (0 - (['0'] : List Char).length) :=
    .point hfront (List.forall_mem_singleton.2 rfl) (by simp) .none
  have hvalue : natOfDigits (digits ++ zeros ((width : Int) - digits.length) ++ ['0']) =
      natOfDigits digits * 10 ^ (width - digits.length + 1) := by
    have hzeros : zeros ((width : Int) - digits.length) ++ ['0'] =
        List.replicate (width - digits.length + 1) '0' := by
      rw [zeros, List.replicate_succ', Int.toNat_sub]
    rw [List.append_assoc, hzeros, natOfDigits_append_zeros hdigital]
  rw [hvalue] at htext
  simpa using htext

theorem FractionalText.parted (negative : Bool) (hdigital : ∀ c ∈ digits, isAsciiDigit c = true)
    (hleading : digits.head? ≠ some '0') (hwidth : 0 < width) (hrest : width < digits.length) :
    FractionalText negative (signText negative ++ (digits.take width ++ ['.'] ++ digits.drop width))
      (natOfDigits digits) (width - digits.length) := by
  have hfront : Front (digits.take width) := by
    refine Front.of_append (digits.drop width) ?_ (fun c hc => hdigital c (List.mem_of_mem_take hc)) ?_
    · rw [ne_eq, List.take_eq_nil_iff, not_or, ← List.length_eq_zero_iff]
      omega
    · rwa [List.take_append_drop]
  have hne : digits.drop width ≠ [] := by
    rw [ne_eq, List.drop_eq_nil_iff]
    omega
  have htext : FractionalText negative (signText negative ++
      (digits.take width ++ '.' :: (digits.drop width ++ [])))
      (natOfDigits (digits.take width ++ digits.drop width)) (0 - (digits.drop width).length) :=
    .point hfront (fun c hc => hdigital c (List.mem_of_mem_drop hc)) hne .none
  have hplace : (0 : Int) - (digits.drop width).length = (width : Int) - digits.length := by
    rw [List.length_drop]
    omega
  rw [List.take_append_drop, hplace, List.append_nil] at htext
  simpa using htext

theorem FractionalText.scientific (negative : Bool) {first : Char} {rest : List Char}
    (hdigital : ∀ c ∈ first :: rest, isAsciiDigit c = true) (hleading : (first :: rest).head? ≠ some '0')
    (point : Int) :
    FractionalText negative (signText negative ++ (first :: (if rest.isEmpty then [] else '.' :: rest) ++
      'e' :: exponentText .dataFile (point - 1)))
      (natOfDigits (first :: rest)) (point - (first :: rest).length) := by
  have hfront : Front [first] :=
    Front.of_append rest (by simp)
      (fun c hc => hdigital c (List.mem_singleton.1 hc ▸ List.mem_cons_self)) hleading
  have hexponent := exponentText_spec (point - 1)
  cases rest with
  | nil => exact .exponent hfront hexponent
  | cons second rest =>
    have htext : FractionalText negative (signText negative ++ ([first] ++
        '.' :: ((second :: rest) ++ 'e' :: exponentText .dataFile (point - 1))))
        (natOfDigits ([first] ++ second :: rest)) (point - 1 - (second :: rest).length) :=
      .point hfront (fun c hc => hdigital c (List.mem_cons_of_mem _ hc)) (by simp) hexponent
    have hplace : point - 1 - (second :: rest).length = point - ((first :: second :: rest).length : Nat) := by
      simp only [List.length_cons]
      omega
    rw [hplace] at htext
    exact htext

end Layouts

/-- The text of some digits stands for the digits, perhaps with more zeros at their end. -/
theorem Digits.toText_spec (negative : Bool) {found : Digits} (hne : found.digits ≠ [])
    (hdigital : ∀ c ∈ found.digits, isAsciiDigit c = true)
    (hleading : found.digits.head? ≠ some '0') : ∃ count ≤ 17,
      FractionalText negative (signText negative ++ found.toText .dataFile)
        (natOfDigits found.digits * 10 ^ count)
        (found.point - found.digits.length - (count : Nat)) := by
  obtain ⟨digits, point⟩ := found
  dsimp only at hne hdigital hleading ⊢
  have hpos := List.length_pos_iff.2 hne
  have hexact {text : List Char} (htext : FractionalText negative (signText negative ++ text)
      (natOfDigits digits) (point - digits.length)) : ∃ count ≤ 17,
        FractionalText negative (signText negative ++ text) (natOfDigits digits * 10 ^ count)
          (point - digits.length - (count : Nat)) :=
    ⟨0, by decide, by simpa using htext⟩
  unfold Digits.toText
  dsimp only
  split
  · rename_i hplain
    have hgreatest : point ≤ 16 := of_decide_eq_true (Bool.and_eq_true_iff.1 hplain).2
    split
    · rename_i hsmall
      exact hexact (.belowOne negative hne hdigital hsmall)
    · rename_i hlarge
      obtain ⟨width, rfl⟩ := Int.eq_ofNat_of_zero_le (show 0 ≤ point by omega)
      rw [Int.toNat_natCast]
      by_cases hall : digits.length ≤ width
      · refine ⟨width - digits.length + 1, by omega, ?_⟩
        have hplace : (width : Int) - digits.length - ((width - digits.length + 1 : Nat) : Int) = -1 := by
          omega
        rw [List.take_of_length_le hall, List.drop_of_length_le hall, hplace]
        exact .whole negative hne hdigital hleading hall
      · have hzeros : zeros ((width : Int) - digits.length) = [] := by
          rw [zeros, Int.toNat_sub, Nat.sub_eq_zero_of_le (by omega)]
          rfl
        have hrest : ¬(digits.drop width).isEmpty = true := by
          rw [List.isEmpty_iff, List.drop_eq_nil_iff]
          omega
        rw [hzeros, List.append_nil, if_neg hrest]
        exact hexact (.parted negative hdigital hleading (by omega) (by omega))
  · obtain ⟨first, rest, rfl⟩ := List.exists_cons_of_ne_nil hne
    exact hexact (.scientific negative hdigital hleading point)

namespace Binary64

/-- The sign takes no part in rounding. -/
theorem nearest_negative (negative : Bool) {num den mantissa : Nat} {exponent : Int}
    (h : nearest false num den = finite false mantissa exponent) :
    nearest negative num den = finite negative mantissa exponent := by
  unfold nearest at h ⊢
  split_ifs at h ⊢ with hzero
  · cases h
    rfl
  · dsimp only at h ⊢
    split_ifs at h ⊢ <;> cases h
    · rfl
    · rfl

theorem ofDecimal_negative (negative : Bool) {digits mantissa : Nat} {unit exponent : Int}
    (hrange : InRange digits unit)
    (h : ofDecimal false digits unit = finite false mantissa exponent) :
    ofDecimal negative digits unit = finite negative mantissa exponent := by
  rw [ofDecimal_eq_nearest _ hrange] at h ⊢
  exact nearest_negative negative h

/-- The shortest text of a number is a text of a number with a fraction or an exponent, which is
the number that it is read as. -/
theorem toShortest_spec (negative : Bool) {mantissa : Nat} {exponent : Int}
    (h : Canonical mantissa exponent) : ∃ digits unit,
      FractionalText negative ((finite negative mantissa exponent).toShortest .dataFile).toList
        digits unit ∧ ofDecimal negative digits unit = finite negative mantissa exponent := by
  rcases Nat.eq_zero_or_pos mantissa with rfl | hmantissa
  · obtain rfl : exponent = -1074 := h.leading.resolve_right (by omega)
    refine ⟨0, 0 - (['0'] : List Char).length, ?_, ?_⟩
    · rw [toShortest, if_pos rfl, String.toList_ofList]
      have hfront : Front ['0'] := ⟨by simp, List.forall_mem_singleton.2 rfl, .inl rfl⟩
      have hfraction : ∀ c ∈ ['0'], isAsciiDigit c = true := List.forall_mem_singleton.2 rfl
      exact .point hfront hfraction (by simp) .none
    · rw [ofDecimal, if_pos rfl]
  · have hspells := shortestDigits_spells h hmantissa
    obtain ⟨count, hcount, htext⟩ :=
      Digits.toText_spec negative hspells.ne_nil hspells.digital hspells.leading
    refine ⟨natOfDigits (shortestDigits mantissa exponent).digits * 10 ^ count,
      (shortestDigits mantissa exponent).point - (shortestDigits mantissa exponent).digits.length -
        (count : Nat), ?_, ?_⟩
    · rw [toShortest, if_neg hmantissa.ne', String.toList_ofList]
      exact htext
    · have hbound := hspells.bound
      have hlowest := hspells.lowest
      have hgreatest := hspells.greatest
      have hrange : InRange (natOfDigits (shortestDigits mantissa exponent).digits)
          ((shortestDigits mantissa exponent).point -
            (shortestDigits mantissa exponent).digits.length) :=
        ⟨by omega, by omega, by omega⟩
      rw [ofDecimal_shift negative count hrange ⟨?_, by omega, by omega⟩]
      · exact ofDecimal_negative negative hrange hspells.reads
      · calc _ ≤ 10 ^ 20 * 10 ^ 17 := Nat.mul_le_mul hbound (Nat.pow_le_pow_right (by decide) hcount)
          _ < 10 ^ 40 := by norm_num

/-- What is written for a number in a data file is read back as the same number. -/
theorem read?_toShortest (negative : Bool) {mantissa : Nat} {exponent : Int}
    (h : Canonical mantissa exponent) :
    Numeral.read? ((finite negative mantissa exponent).toShortest .dataFile).toList =
      some (.fractional (finite negative mantissa exponent)) := by
  obtain ⟨digits, unit, htext, hvalue⟩ := toShortest_spec negative h
  rw [htext.read?_eq, hvalue]

end Binary64
end KotlinAudit.Decimal
