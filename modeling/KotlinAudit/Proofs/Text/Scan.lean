import KotlinAudit.Text.Scan
import Mathlib.Data.List.Basic
import Mathlib.Data.List.Dedup
import Mathlib.Data.List.Infix
import Mathlib.Data.String.Basic

/-! Texts in which a mark has been replaced, sets of texts, and signs that open and close. What stands on both sides
of a place is rewritten on its own unless a mark runs over the place. A set of texts is told by what it holds. Read
from a depth on, a text stays within what is open there, or it closes the outermost group at one place, the first
one up to which as much has been closed as opened. -/
namespace KotlinAudit.Text

/-! ### Replacing -/

section Replacing

variable {first second c : Char} {others replacement front rest : List Char}

theorem replaceAll_nil : replaceAll first others replacement [] = [] := by rw [replaceAll]

theorem replaceAll_cons (h : ¬first :: others <+: c :: rest) :
    replaceAll first others replacement (c :: rest) = c :: replaceAll first others replacement rest := by
  rw [replaceAll, if_neg (by rwa [List.isPrefixOf_iff_prefix])]

theorem replaceAll_occurrence (first : Char) (others replacement rest : List Char) :
    replaceAll first others replacement (first :: others ++ rest) =
      replacement ++ replaceAll first others replacement rest := by
  have hprefix : (first :: others).isPrefixOf (first :: (others ++ rest)) = true :=
    List.isPrefixOf_iff_prefix.2 (List.prefix_append (first :: others) rest)
  rw [List.cons_append, replaceAll, if_pos hprefix, List.drop_left]

/-- No mark begins in a text without its first character. -/
theorem replaceAll_append_of_not_mem (others replacement rest : List Char) (h : first ∉ front) :
    replaceAll first others replacement (front ++ rest) =
      front ++ replaceAll first others replacement rest := by
  induction front with
  | nil => rfl
  | cons c front ih =>
    rw [List.mem_cons, not_or] at h
    rw [List.cons_append, replaceAll_cons, ih h.2, List.cons_append]
    exact fun hmark => h.1 (List.cons_prefix_cons.1 hmark).1

/-- A mark of two characters runs over a place only from its first to its second one. -/
theorem replaceAll_append (h : front.getLast? = some first → rest.head? ≠ some second) :
    replaceAll first [second] replacement (front ++ rest) =
      replaceAll first [second] replacement front ++ replaceAll first [second] replacement rest := by
  fun_induction replaceAll first [second] replacement front with
  | case1 => rfl
  | case2 c others hmark ih =>
    obtain ⟨behind, hbehind⟩ := List.isPrefixOf_iff_prefix.1 hmark
    obtain ⟨rfl, rfl⟩ := List.cons.inj hbehind
    have hlast : behind.getLast? = some first → (first :: second :: behind).getLast? = some first := by
      intro hlast
      rw [List.getLast?_cons_cons, List.getLast?_cons, hlast, Option.getD_some]
    have hrest := replaceAll_occurrence first [second] replacement (behind ++ rest)
    rw [List.append_assoc, ← ih fun hbehind => h (hlast hbehind)]
    exact hrest
  | case3 c others hmark ih =>
    have hkept : ¬[first, second] <+: c :: (others ++ rest) := by
      intro hstarts
      obtain ⟨rfl, hsecond⟩ := List.cons_prefix_cons.1 hstarts
      cases others with
      | nil =>
        obtain ⟨behind, rfl⟩ : [second] <+: rest := hsecond
        exact h rfl rfl
      | cons d others =>
        obtain ⟨rfl, -⟩ := List.cons_prefix_cons.1 hsecond
        exact hmark (List.isPrefixOf_iff_prefix.2 (List.prefix_append [first, second] others))
    have hlast : others.getLast? = some first → (c :: others).getLast? = some first := by
      intro hlast
      rw [List.getLast?_cons, hlast, Option.getD_some]
    rw [List.cons_append, replaceAll_cons hkept, ih fun hothers => h (hlast hothers), List.cons_append]

theorem mem_of_mem_replaceAll {text : List Char} (h : c ∈ replaceAll first others replacement text) :
    c ∈ replacement ∨ c ∈ text := by
  fun_induction replaceAll first others replacement text with
  | case1 => exact .inr h
  | case2 d rest _ ih =>
    rcases List.mem_append.1 h with h | h
    · exact .inl h
    · exact (ih h).imp_right fun hrest => List.mem_cons_of_mem d (List.mem_of_mem_drop hrest)
  | case3 d rest _ ih =>
    rcases List.mem_cons.1 h with rfl | h
    · exact .inr List.mem_cons_self
    · exact (ih h).imp_right (List.mem_cons_of_mem d)

end Replacing

/-! ### Sets of texts -/

theorem le_iff (left right : String) : le left right = true ↔ left ≤ right := by
  rw [le, Bool.not_eq_true', decide_eq_false_iff_not, not_lt]

theorem withoutRepeats_sublist (texts : List String) : (withoutRepeats texts).Sublist texts := by
  induction texts using withoutRepeats.induct with
  | case1 => exact .slnil
  | case2 text => exact .refl _
  | case3 text rest ih =>
    rw [withoutRepeats, if_pos rfl]
    exact ih.cons text
  | case4 text next rest hne ih =>
    rw [withoutRepeats, if_neg hne]
    exact ih.cons_cons text

theorem mem_withoutRepeats {texts : List String} {text : String} :
    text ∈ withoutRepeats texts ↔ text ∈ texts := by
  induction texts using withoutRepeats.induct with
  | case1 => rfl
  | case2 => rfl
  | case3 first rest ih =>
    rw [withoutRepeats, if_pos rfl, ih, List.mem_cons (a := text) (b := first) (l := first :: rest)]
    exact ⟨.inr, fun h => h.elim (fun heq => heq ▸ List.mem_cons_self) id⟩
  | case4 first next rest hne ih =>
    rw [withoutRepeats, if_neg hne, List.mem_cons, ih, List.mem_cons (b := first)]

/-- The first of some texts stays the first of them without repeats. -/
theorem exists_withoutRepeats_cons (text : String) (rest : List String) :
    ∃ others, withoutRepeats (text :: rest) = text :: others := by
  induction rest with
  | nil => exact ⟨[], rfl⟩
  | cons next rest ih =>
    by_cases heq : text = next
    · subst heq
      rw [withoutRepeats, if_pos rfl]
      exact ih
    · rw [withoutRepeats, if_neg heq]
      exact ⟨_, rfl⟩

theorem withoutRepeats_withoutRepeats (texts : List String) :
    withoutRepeats (withoutRepeats texts) = withoutRepeats texts := by
  induction texts using withoutRepeats.induct with
  | case1 => rfl
  | case2 => rfl
  | case3 text rest ih =>
    rw [withoutRepeats, if_pos rfl, ih]
  | case4 text next rest hne ih =>
    rw [withoutRepeats, if_neg hne]
    obtain ⟨others, hothers⟩ := exists_withoutRepeats_cons next rest
    rw [hothers] at ih ⊢
    rw [withoutRepeats, if_neg hne, ih]

theorem mem_sortedSet {texts : List String} {text : String} :
    text ∈ sortedSet texts ↔ text ∈ texts := by
  rw [sortedSet, mem_withoutRepeats, List.mem_mergeSort]

theorem pairwise_mergeSort_le (texts : List String) :
    (texts.mergeSort le).Pairwise fun left right => le left right = true := by
  refine List.pairwise_mergeSort ?_ ?_ texts
  · intro first second third
    rw [le_iff, le_iff, le_iff]
    exact le_trans
  · intro first second
    rw [Bool.or_eq_true, le_iff, le_iff]
    exact le_total first second

theorem sortedSet_sortedSet (texts : List String) :
    sortedSet (sortedSet texts) = sortedSet texts := by
  unfold sortedSet
  rw [List.mergeSort_of_pairwise ((pairwise_mergeSort_le texts).sublist (withoutRepeats_sublist _)),
    withoutRepeats_withoutRepeats]

/-- Repeats in a sorted list stand side by side. -/
theorem nodup_withoutRepeats {texts : List String}
    (h : texts.Pairwise fun left right => le left right = true) : (withoutRepeats texts).Nodup := by
  induction texts using withoutRepeats.induct with
  | case1 => exact List.nodup_nil
  | case2 text => exact List.nodup_singleton text
  | case3 text rest ih =>
    rw [withoutRepeats, if_pos rfl]
    exact ih h.of_cons
  | case4 text next rest hne ih =>
    rw [withoutRepeats, if_neg hne, List.nodup_cons, mem_withoutRepeats]
    refine ⟨fun hmem => ?_, ih h.of_cons⟩
    have hfirst : text ≤ next := (le_iff _ _).1 ((List.pairwise_cons.1 h).1 next List.mem_cons_self)
    have hnext : next ≤ text := by
      rcases List.mem_cons.1 hmem with rfl | hrest
      · exact le_refl text
      · exact (le_iff _ _).1 ((List.pairwise_cons.1 h.of_cons).1 text hrest)
    exact hne (le_antisymm hfirst hnext)

/-- The texts of a set stand in strictly increasing order. -/
theorem pairwise_lt_sortedSet (texts : List String) : (sortedSet texts).Pairwise (· < ·) := by
  have hle : (sortedSet texts).Pairwise fun left right => le left right = true :=
    (pairwise_mergeSort_le texts).sublist (withoutRepeats_sublist _)
  have hne : (sortedSet texts).Pairwise (· ≠ ·) := nodup_withoutRepeats (pairwise_mergeSort_le texts)
  exact hle.imp₂ (fun _ _ hle hne => lt_of_le_of_ne ((le_iff _ _).1 hle) hne) hne

/-- A set is determined by its members. -/
theorem sortedSet_congr {texts others : List String} (h : ∀ text, text ∈ texts ↔ text ∈ others) :
    sortedSet texts = sortedSet others := by
  have hperm : (sortedSet texts).Perm (sortedSet others) := by
    refine (List.perm_ext_iff_of_nodup (pairwise_lt_sortedSet texts).nodup
      (pairwise_lt_sortedSet others).nodup).2 fun text => ?_
    rw [mem_sortedSet, mem_sortedSet, h]
  exact hperm.eq_of_pairwise (fun _ _ _ _ hless hmore => absurd hmore hless.asymm)
    (pairwise_lt_sortedSet texts) (pairwise_lt_sortedSet others)

/-- A set has fewer members than texts it is made of, unless these are different. -/
theorem length_sortedSet_iff (texts : List String) :
    (sortedSet texts).length = texts.length ↔ texts.Nodup := by
  have hperm : (sortedSet texts).Perm texts.dedup := by
    refine (List.perm_ext_iff_of_nodup (nodup_withoutRepeats (pairwise_mergeSort_le texts))
      (List.nodup_dedup texts)).2 fun text => ?_
    rw [← sortedSet, mem_sortedSet, List.mem_dedup]
  rw [hperm.length_eq, ← List.dedup_eq_self]
  exact ⟨(List.dedup_sublist texts).eq_of_length, congrArg List.length⟩

/-! ### Signs that open and close -/

/-- In a text nothing is closed that has not been opened in it, and all that is opened is closed. -/
structure Matched (opening closing : Char) (text : List Char) : Prop where
  level : ∀ front, front <+: text → front.count closing ≤ front.count opening
  closed : text.count opening = text.count closing

/-- By how many the opening signs of a text outnumber the closing ones. -/
def surplus (opening closing : Char) (text : List Char) : Int := text.count opening - text.count closing

/-- Read from a depth on, the text leaves something open all along. -/
def Within (opening closing : Char) (depth : Int) (text : List Char) : Prop :=
  ∀ front, front <+: text → 0 < depth + surplus opening closing front

variable {opening closing c : Char} {depth : Int} {text front rest : List Char}

theorem surplus_nil : surplus opening closing [] = 0 := rfl

theorem surplus_append (front rest : List Char) : surplus opening closing (front ++ rest) =
    surplus opening closing front + surplus opening closing rest := by
  simp only [surplus, List.count_append]
  omega

theorem surplus_cons (c : Char) (rest : List Char) : surplus opening closing (c :: rest) =
    surplus opening closing [c] + surplus opening closing rest := surplus_append [c] rest

theorem surplus_opening (hne : opening ≠ closing) : surplus opening closing [opening] = 1 := by
  rw [surplus, List.count_singleton_self, List.count_singleton, if_neg (by simpa using hne)]
  rfl

theorem surplus_closing (hne : opening ≠ closing) : surplus opening closing [closing] = -1 := by
  rw [surplus, List.count_singleton_self, List.count_singleton, if_neg (by simpa using hne.symm)]
  rfl

theorem surplus_other (hopening : c ≠ opening) (hclosing : c ≠ closing) :
    surplus opening closing [c] = 0 := by
  rw [surplus, List.count_singleton, List.count_singleton, if_neg (by simpa using hopening),
    if_neg (by simpa using hclosing)]
  rfl

theorem within_nil : Within opening closing depth [] ↔ 0 < depth := by
  have hnil : depth + surplus opening closing [] = depth := Int.add_zero depth
  constructor
  · intro h
    exact hnil ▸ h [] (List.prefix_refl [])
  · intro h front hfront
    rwa [List.prefix_nil.1 hfront, hnil]

theorem within_cons : Within opening closing depth (c :: rest) ↔
    0 < depth ∧ Within opening closing (depth + surplus opening closing [c]) rest := by
  constructor
  · intro h
    refine ⟨within_nil.1 fun front hfront => h front ?_, fun front hfront => ?_⟩
    · exact hfront.trans List.nil_prefix
    · rw [Int.add_assoc, ← surplus_cons]
      exact h (c :: front) (List.cons_prefix_cons.2 ⟨rfl, hfront⟩)
  · rintro ⟨hdepth, hrest⟩ front hfront
    rcases List.prefix_cons_iff.1 hfront with rfl | ⟨more, rfl, hmore⟩
    · exact within_nil.2 hdepth [] (List.prefix_refl [])
    · rw [surplus_cons, ← Int.add_assoc]
      exact hrest more hmore

theorem within_append : Within opening closing depth (front ++ rest) ↔
    Within opening closing depth front ∧
      Within opening closing (depth + surplus opening closing front) rest := by
  induction front generalizing depth with
  | nil =>
    rw [List.nil_append, surplus_nil, Int.add_zero, within_nil]
    exact ⟨fun h => ⟨within_nil.1 fun front hfront => h front (hfront.trans List.nil_prefix), h⟩,
      And.right⟩
  | cons c front ih =>
    rw [List.cons_append, within_cons, within_cons, ih, surplus_cons c front, Int.add_assoc, and_assoc]

theorem matched_iff : Matched opening closing text ↔
    Within opening closing 1 text ∧ surplus opening closing text = 0 := by
  have hlevel : ∀ front : List Char, front.count closing ≤ front.count opening ↔
      0 < 1 + surplus opening closing front := by
    intro front
    rw [surplus]
    omega
  constructor
  · rintro ⟨hall, hclosed⟩
    refine ⟨fun front hfront => (hlevel front).1 (hall front hfront), ?_⟩
    rw [surplus, hclosed, Int.sub_self]
  · rintro ⟨hall, hclosed⟩
    refine ⟨fun front hfront => (hlevel front).2 (hall front hfront), ?_⟩
    rw [surplus] at hclosed
    omega

instance (opening closing : Char) (text : List Char) : Decidable (Matched opening closing text) :=
  decidable_of_iff ((∀ front ∈ text.inits, front.count closing ≤ front.count opening) ∧
    text.count opening = text.count closing)
  ⟨fun ⟨hlevel, hclosed⟩ => ⟨fun front hfront => hlevel front ((List.mem_inits _ _).2 hfront), hclosed⟩,
    fun h => ⟨fun front hfront => h.level front ((List.mem_inits _ _).1 hfront), h.closed⟩⟩

/-! ### The place where the outermost group closes -/

/-- A closing sign behind a matched text closes the outermost group. -/
theorem Matched.not_within (hne : opening ≠ closing) (h : Matched opening closing front) :
    ¬Within opening closing 1 (front ++ closing :: rest) := by
  intro hwithin
  have hlast := (within_cons.1 (within_append.1 hwithin).2).2 [] List.nil_prefix
  rw [(matched_iff.1 h).2, surplus_closing hne, surplus_nil] at hlast
  exact absurd hlast (by decide)

/-- There is at most one place where the outermost group closes. -/
theorem Matched.append_cons_inj (hne : opening ≠ closing) {other more : List Char}
    (h : Matched opening closing front) (hother : Matched opening closing other)
    (heq : front ++ closing :: rest = other ++ closing :: more) : front = other ∧ rest = more := by
  -- If one of the texts went on behind the other, it would hold its closing sign.
  have hlonger : ∀ {front other rest more gap : List Char}, Matched opening closing front →
      Matched opening closing other → other = front ++ gap → closing :: rest = gap ++ closing :: more →
      gap = [] := by
    intro front other rest more gap hfront hother hgap hrest
    cases gap with
    | nil => rfl
    | cons c gap =>
      obtain ⟨rfl, -⟩ := List.cons.inj hrest
      exact absurd (hgap ▸ (matched_iff.1 hother).1) (hfront.not_within hne)
  rcases List.append_eq_append_iff.1 heq with ⟨gap, hgap, hrest⟩ | ⟨gap, hgap, hrest⟩
  · obtain rfl := hlonger h hother hgap hrest
    exact ⟨(hgap.trans (List.append_nil front)).symm, (List.cons.inj hrest).2⟩
  · obtain rfl := hlonger hother h hgap hrest
    exact ⟨hgap.trans (List.append_nil other), (List.cons.inj hrest).2.symm⟩

/-- From a depth on a text leaves something open all along, or there is a place where it closes the outermost
group. -/
theorem within_or_exists_closing (hne : opening ≠ closing) (hdepth : 0 < depth) :
    Within opening closing depth text ∨ ∃ front rest, text = front ++ closing :: rest ∧
      Within opening closing depth front ∧ depth + surplus opening closing front = 1 := by
  induction text generalizing depth with
  | nil => exact .inl (within_nil.2 hdepth)
  | cons c text ih =>
    by_cases hlast : c = closing ∧ depth = 1
    · obtain ⟨rfl, rfl⟩ := hlast
      exact .inr ⟨[], text, rfl, within_nil.2 hdepth, rfl⟩
    · have hnext : 0 < depth + surplus opening closing [c] := by
        by_cases hclosing : c = closing
        · have hmore : depth ≠ 1 := fun hone => hlast ⟨hclosing, hone⟩
          rw [hclosing, surplus_closing hne]
          omega
        by_cases hopening : c = opening
        · rw [hopening, surplus_opening hne]
          omega
        · rw [surplus_other hopening hclosing]
          omega
      rcases ih hnext with hwithin | ⟨front, rest, rfl, hwithin, hone⟩
      · exact .inl (within_cons.2 ⟨hdepth, hwithin⟩)
      · refine .inr ⟨c :: front, rest, rfl, within_cons.2 ⟨hdepth, hwithin⟩, ?_⟩
        rw [surplus_cons, ← Int.add_assoc, hone]

theorem within_or_exists_matched (hne : opening ≠ closing) (text : List Char) :
    Within opening closing 1 text ∨ ∃ front rest, text = front ++ closing :: rest ∧
      Matched opening closing front := by
  rcases within_or_exists_closing hne (show (0 : Int) < 1 by decide) with
    hwithin | ⟨front, rest, heq, hwithin, hone⟩
  · exact .inl hwithin
  · exact .inr ⟨front, rest, heq, matched_iff.2 ⟨hwithin, by omega⟩⟩

end KotlinAudit.Text
