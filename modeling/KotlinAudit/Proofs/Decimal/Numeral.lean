import KotlinAudit.Decimal.Numeral
import Mathlib.Algebra.Group.Nat.Defs
import Mathlib.Data.List.Induction
import Mathlib.Data.List.TakeDrop

/-! Runs of digits and the numerals made of them: what is written with digits is read back. -/
namespace KotlinAudit.Decimal

open Text (isAsciiDigit)

theorem digitValue?_of_isAsciiDigit {c : Char} (h : isAsciiDigit c = true) :
    Text.digitValue? c = some (c.toNat - '0'.toNat) := by
  have hrange : '0' ≤ c ∧ c ≤ '9' := by
    simpa only [isAsciiDigit, Bool.and_eq_true, decide_eq_true_eq] using h
  have hsmall : c.toNat < 128 := Nat.lt_of_le_of_lt hrange.2 (by decide)
  rw [Text.digitValue?, if_pos hsmall, if_pos h]

theorem foldl_digits {digits : List Char} (h : ∀ c ∈ digits, isAsciiDigit c = true) (start : Nat) :
    digits.foldl (fun value c => 10 * value + (Text.digitValue? c).getD 0) start =
      Nat.ofDigitChars 10 digits start := by
  rw [Nat.ofDigitChars_eq_foldl]
  induction digits generalizing start with
  | nil => rfl
  | cons c rest ih =>
    rw [List.foldl_cons, List.foldl_cons, digitValue?_of_isAsciiDigit (h c List.mem_cons_self)]
    exact ih (fun c hc => h c (List.mem_cons_of_mem _ hc)) _

theorem natOfDigits_eq {digits : List Char} (h : ∀ c ∈ digits, isAsciiDigit c = true) :
    natOfDigits digits = Nat.ofDigitChars 10 digits 0 :=
  foldl_digits h 0

theorem isAsciiDigit_toString (n : Nat) : ∀ c ∈ (toString n).toList, isAsciiDigit c = true := by
  intro c hc
  rw [Nat.toString_eq_repr, Nat.toList_repr] at hc
  exact Nat.isDigit_of_mem_toDigits (by decide) (by decide) hc

theorem natOfDigits_toString (n : Nat) : natOfDigits (toString n).toList = n := by
  rw [natOfDigits_eq (isAsciiDigit_toString n), Nat.toString_eq_repr, Nat.toList_repr,
    Nat.ofDigitChars_ten_toDigits]

theorem toString_toList_ne_nil (n : Nat) : (toString n).toList ≠ [] := by
  rw [Nat.toString_eq_repr, Nat.toList_repr]
  exact Nat.toDigits_ne_nil

/-- A number is written with too many digits if it is as large as a power of ten. -/
theorem maxDigits_lt_length_iff (n : Nat) :
    maxDigits < (toString n).length ↔ ¬ n < 10 ^ maxDigits := by
  rw [Nat.toString_eq_repr, ← Nat.length_repr_le_iff (by decide), Nat.not_le]

/-- Only zero is written with a zero in front. -/
theorem head?_toString {n : Nat} (h : 0 < n) : (toString n).toList.head? ≠ some '0' := by
  rw [Nat.toString_eq_repr, Nat.toList_repr]
  induction n using Nat.strongRecOn with
  | ind n ih =>
    rcases Nat.lt_or_ge n 10 with hlt | hge
    · rw [Nat.toDigits_of_lt_base hlt]
      have hall : ∀ m < 10, 0 < m → [Nat.digitChar m].head? ≠ some '0' := by decide
      exact hall n hlt h
    · rw [Nat.toDigits_of_base_le (by decide) hge]
      have hmore := ih (n / 10) (by omega) (by omega)
      cases hdigits : Nat.toDigits 10 (n / 10) with
      | nil => exact absurd hdigits Nat.toDigits_ne_nil
      | cons c rest =>
        rw [hdigits] at hmore
        exact hmore

theorem natOfDigits_append_zeros {digits : List Char} (h : ∀ c ∈ digits, isAsciiDigit c = true)
    (count : Nat) : natOfDigits (digits ++ List.replicate count '0') =
      natOfDigits digits * 10 ^ count := by
  rw [natOfDigits_eq, natOfDigits_eq h, Nat.ofDigitChars_append, Nat.ofDigitChars_replicate_zero,
    Nat.mul_comm]
  intro c hc
  rcases List.mem_append.1 hc with hc | hc
  · exact h c hc
  · rw [List.eq_of_mem_replicate hc]
    rfl

theorem natOfDigits_zeros_append {digits : List Char} (h : ∀ c ∈ digits, isAsciiDigit c = true)
    (count : Nat) : natOfDigits (List.replicate count '0' ++ digits) = natOfDigits digits := by
  rw [natOfDigits_eq, natOfDigits_eq h, Nat.ofDigitChars_append, Nat.ofDigitChars_replicate_zero,
    Nat.mul_zero]
  intro c hc
  rcases List.mem_append.1 hc with hc | hc
  · rw [List.eq_of_mem_replicate hc]
    rfl
  · exact h c hc

theorem digitValue?_lt {c : Char} {value : Nat} (h : Text.digitValue? c = some value) :
    value < 10 := by
  unfold Text.digitValue? at h
  split_ifs at h with hbasic hdigit
  · cases h
    simp only [isAsciiDigit, Bool.and_eq_true, decide_eq_true_eq] at hdigit
    have hle : c.toNat ≤ 57 := hdigit.2
    change c.toNat - 48 < 10
    omega
  · obtain ⟨start, hstart, rfl⟩ := Option.map_eq_some_iff.1 h
    have hrange := List.find?_some hstart
    simp only [Bool.and_eq_true, decide_eq_true_eq] at hrange
    omega

theorem natOfDigits_lt (digits : List Char) : natOfDigits digits < 10 ^ digits.length := by
  induction digits using List.reverseRecOn with
  | nil => decide
  | append_singleton digits c ih =>
    have hvalue : (Text.digitValue? c).getD 0 < 10 := by
      cases h : Text.digitValue? c with
      | none => decide
      | some value => exact digitValue?_lt h
    rw [natOfDigits, List.foldl_append, ← natOfDigits, List.length_append, Nat.pow_add]
    simp only [List.foldl_cons, List.foldl_nil, List.length_singleton]
    omega

/-- A text does not go on with a digit. -/
def StopsDigits (rest : List Char) : Prop := ∀ c ∈ rest.head?, isAsciiDigit c = false

theorem spanDigits_append {digits rest : List Char} (h : ∀ c ∈ digits, isAsciiDigit c = true)
    (hrest : StopsDigits rest) : spanDigits (digits ++ rest) = (digits, rest) := by
  have hstop : rest.takeWhile isAsciiDigit = [] ∧ rest.dropWhile isAsciiDigit = rest := by
    cases rest with
    | nil => exact ⟨rfl, rfl⟩
    | cons c rest =>
      have hc : ¬ isAsciiDigit c = true := by
        rw [hrest c rfl]
        exact Bool.false_ne_true
      exact ⟨List.takeWhile_cons_of_neg hc, List.dropWhile_cons_of_neg hc⟩
  rw [spanDigits, List.span_eq_takeWhile_dropWhile, List.takeWhile_append_of_pos h,
    List.dropWhile_append_of_pos h, hstop.1, hstop.2, List.append_nil]

/-! ### Numerals -/

/-- The sign in front of a number. -/
def signText (negative : Bool) : List Char := if negative then ['-'] else []

theorem toList_toString_int (value : Int) : (toString value).toList =
    signText (decide (value < 0)) ++ (toString value.natAbs).toList := by
  cases value with
  | ofNat n =>
    rw [decide_eq_false (Int.not_lt.2 (Int.natCast_nonneg n) : ¬ Int.ofNat n < 0)]
    rfl
  | negSucc n =>
    rw [decide_eq_true (Int.negSucc_lt_zero n)]
    exact String.toList_append

/-- The digits in front of a point, without needless zeros. -/
structure Front (front : List Char) : Prop where
  ne_nil : front ≠ []
  digital : ∀ c ∈ front, isAsciiDigit c = true
  leading : front = ['0'] ∨ front.head? ≠ some '0'

/-- The sign of a numeral, and what stands behind it. -/
def unsigned : List Char → Bool × List Char
  | '-' :: rest => (true, rest)
  | rest => (false, rest)

/-- A numeral by the digits that it starts with and the text behind them. -/
def numeralOf? (negative : Bool) (front rest : List Char) : Option Numeral :=
  match front, rest with
  | [], _ => none
  | '0' :: _ :: _, _ => none
  | _, [] => some (.whole (if negative then -(natOfDigits front : Int) else natOfDigits front))
  | _, '.' :: rest =>
    if (spanDigits rest).1.isEmpty then none
    else (exponent? (spanDigits rest).2).map fun exponent => .fractional
      (.ofDecimal negative (natOfDigits (front ++ (spanDigits rest).1))
        (exponent - (spanDigits rest).1.length))
  | _, rest => (exponent? rest).map fun exponent =>
      .fractional (.ofDecimal negative (natOfDigits front) exponent)

theorem read?_eq (text : List Char) : Numeral.read? text =
    numeralOf? (unsigned text).1 (spanDigits (unsigned text).2).1
      (spanDigits (unsigned text).2).2 := rfl

theorem unsigned_signText (negative : Bool) {front : List Char} (h : Front front)
    (rest : List Char) : unsigned (signText negative ++ (front ++ rest)) =
      (negative, front ++ rest) := by
  cases negative with
  | true => rfl
  | false =>
    obtain ⟨c, others, rfl⟩ := List.exists_cons_of_ne_nil h.ne_nil
    have hc := h.digital c List.mem_cons_self
    change unsigned (c :: (others ++ rest)) = _
    unfold unsigned
    split
    · next heq =>
      cases heq
      exact absurd hc (by decide)
    · rfl

theorem read?_signText (negative : Bool) {front rest : List Char} (h : Front front)
    (hrest : StopsDigits rest) :
    Numeral.read? (signText negative ++ (front ++ rest)) = numeralOf? negative front rest := by
  rw [read?_eq, unsigned_signText negative h, spanDigits_append h.digital hrest]

theorem Front.ne_zero_cons {front : List Char} (h : Front front) (c : Char) (rest : List Char) :
    front ≠ '0' :: c :: rest := by
  rintro rfl
  rcases h.leading with hleading | hleading
  · cases hleading
  · exact hleading rfl

/-- Digits alone are a whole number. -/
theorem read?_whole (negative : Bool) {front : List Char} (h : Front front) :
    Numeral.read? (signText negative ++ front) =
      some (.whole (if negative then -(natOfDigits front : Int) else natOfDigits front)) := by
  have hstop : StopsDigits [] := fun c hc => by cases hc
  have hread := read?_signText negative h hstop
  rw [List.append_nil] at hread
  rw [hread]
  unfold numeralOf?
  split
  · exact absurd rfl h.ne_nil
  · exact absurd rfl (h.ne_zero_cons _ _)
  · rfl
  · contradiction
  · contradiction

/-- Digits on both sides of a point, and an exponent behind them. -/
theorem read?_fraction (negative : Bool) {front fraction rest : List Char} {exponent : Int}
    (h : Front front) (hfraction : ∀ c ∈ fraction, isAsciiDigit c = true) (hne : fraction ≠ [])
    (hrest : StopsDigits rest) (hexponent : exponent? rest = some exponent) :
    Numeral.read? (signText negative ++ (front ++ '.' :: (fraction ++ rest))) =
      some (.fractional (.ofDecimal negative (natOfDigits (front ++ fraction))
        (exponent - fraction.length))) := by
  have hspan := spanDigits_append hfraction hrest
  have hempty : ¬ fraction.isEmpty = true := by
    rwa [List.isEmpty_iff]
  rw [read?_signText negative h (fun c hc => by cases hc; decide)]
  unfold numeralOf?
  split
  · exact absurd rfl h.ne_nil
  · exact absurd rfl (h.ne_zero_cons _ _)
  · contradiction
  · next heq =>
    cases heq
    rw [hspan, if_neg hempty, hexponent]
    rfl
  · next hother =>
    exact absurd rfl (hother _)

/-- Digits and an exponent. -/
theorem read?_exponent (negative : Bool) {front rest : List Char} {exponent : Int}
    (h : Front front) (hexponent : exponent? ('e' :: rest) = some exponent) :
    Numeral.read? (signText negative ++ (front ++ 'e' :: rest)) =
      some (.fractional (.ofDecimal negative (natOfDigits front) exponent)) := by
  rw [read?_signText negative h (fun c hc => by cases hc; decide)]
  unfold numeralOf?
  split
  · exact absurd rfl h.ne_nil
  · exact absurd rfl (h.ne_zero_cons _ _)
  · contradiction
  · next heq =>
    cases heq
  · rw [hexponent]
    rfl

/-- An exponent with its sign. -/
theorem exponent?_signed {digits : List Char} {sign : Char} (hsign : sign = '-' ∨ sign = '+')
    (h : ∀ c ∈ digits, isAsciiDigit c = true) (hne : digits ≠ []) :
    exponent? ('e' :: sign :: digits) =
      some (if sign = '-' then -(natOfDigits digits : Int) else natOfDigits digits) := by
  have hall : digits.all isAsciiDigit = true := List.all_eq_true.2 h
  have hempty : digits.isEmpty = false := by
    rwa [List.isEmpty_eq_false_iff]
  rcases hsign with rfl | rfl
  · simp only [exponent?, hall, hempty]
    rfl
  · simp only [exponent?, hall, hempty]
    rfl

/-! ### Texts that are no numerals -/

/-- A character that no numeral has. -/
def Foreign (c : Char) : Prop := isAsciiDigit c = false ∧ c ∉ ['-', '+', '.', 'e', 'E']

instance (c : Char) : Decidable (Foreign c) := inferInstanceAs (Decidable (_ ∧ _))

/-- A character that is no digit stands behind the digits. -/
theorem mem_spanDigits {text : List Char} {c : Char} (hmem : c ∈ text)
    (hc : isAsciiDigit c = false) : c ∈ (spanDigits text).2 := by
  have hsplit : c ∈ (spanDigits text).1 ++ (spanDigits text).2 := by
    rwa [spanDigits, List.span_eq_takeWhile_dropWhile, List.takeWhile_append_dropWhile]
  refine (List.mem_append.1 hsplit).resolve_left fun hdigit => ?_
  rw [spanDigits, List.span_eq_takeWhile_dropWhile] at hdigit
  exact Bool.eq_false_iff.1 hc (List.all_eq_true.1 List.all_takeWhile c hdigit)

theorem exponent?_of_foreign {rest : List Char} {c : Char} (hmem : c ∈ rest) (hc : Foreign c) :
    exponent? rest = none := by
  obtain ⟨hdigit, hmark⟩ := hc
  simp only [List.mem_cons, List.not_mem_nil, or_false, not_or] at hmark
  obtain ⟨hminus, hplus, -, he, hE⟩ := hmark
  cases rest with
  | nil => cases hmem
  | cons first rest =>
    unfold exponent?
    dsimp only
    by_cases hfirst : (first != 'e' && first != 'E') = true
    · rw [if_pos hfirst]
    · rw [if_neg hfirst]
      have hrest : c ∈ rest := by
        refine (List.mem_cons.1 hmem).resolve_left ?_
        rintro rfl
        exact hfirst (by simp [he, hE])
      have hall : ∀ digits : List Char, c ∈ digits →
          (digits.isEmpty || !digits.all isAsciiDigit) = true := by
        intro digits hdigits
        rw [Bool.or_eq_true, Bool.not_eq_true']
        right
        rw [List.all_eq_false]
        exact ⟨c, hdigits, by simp [hdigit]⟩
      split
      · rw [if_pos (hall _ ((List.mem_cons.1 hrest).resolve_left hminus))]
      · rw [if_pos (hall _ ((List.mem_cons.1 hrest).resolve_left hplus))]
      · rw [if_pos (hall _ hrest)]

/-- A text with a character that no numeral has is no numeral. -/
theorem read?_of_foreign {text : List Char} {c : Char} (hmem : c ∈ text) (hc : Foreign c) :
    Numeral.read? text = none := by
  have hmark := hc.2
  simp only [List.mem_cons, List.not_mem_nil, or_false, not_or] at hmark
  have hmagnitude : c ∈ (unsigned text).2 := by
    unfold unsigned
    split
    · exact (List.mem_cons.1 hmem).resolve_left hmark.1
    · exact hmem
  have hrest := mem_spanDigits hmagnitude hc.1
  rw [read?_eq]
  unfold numeralOf?
  split
  · rfl
  · rfl
  · next hnil _ _ =>
    rw [hnil] at hrest
    cases hrest
  · next hpoint _ _ =>
    rw [hpoint] at hrest
    have hfraction := (List.mem_cons.1 hrest).resolve_left hmark.2.2.1
    rw [exponent?_of_foreign (mem_spanDigits hfraction hc.1) hc]
    split <;> rfl
  · rw [exponent?_of_foreign hrest hc]
    rfl

end KotlinAudit.Decimal
