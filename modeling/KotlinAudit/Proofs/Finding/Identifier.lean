import KotlinAudit.Analyzer
import KotlinAudit.Proofs.Decimal.Numeral
import KotlinAudit.Proofs.Text.Lines

/-! Identifiers of findings. They are made of characters that they keep, so they do not break lines; and
they say of what rule, in what line and, as far as they show it, in what file a finding is. -/
namespace KotlinAudit

namespace Identifier

open Text (Unbroken isLineBreak isAsciiLetter isAsciiDigit)

theorem keeps_of_mem_fold {text : List Char} {c : Char} (h : c ∈ fold text) : keeps c = true := by
  have hhyphen : keeps '-' = true := by decide
  induction text using fold.induct with
  | case1 => cases h
  | case2 d hd =>
    rw [fold, if_pos hd] at h
    rwa [List.mem_singleton.1 h]
  | case3 d hd =>
    rw [fold, if_neg hd] at h
    rwa [List.mem_singleton.1 h]
  | case4 d e rest hd ih =>
    rw [fold, if_pos hd] at h
    rcases List.mem_cons.1 h with rfl | h
    · exact hd
    · exact ih h
  | case5 d e rest hd he ih =>
    rw [fold, if_neg hd, if_pos he] at h
    rcases List.mem_cons.1 h with rfl | h
    · exact hhyphen
    · exact ih h
  | case6 d e rest hd he ih =>
    rw [fold, if_neg hd, if_neg he] at h
    exact ih h

theorem not_isLineBreak_of_keeps {c : Char} (h : keeps c = true) : isLineBreak c = false := by
  have hrange : 32 ≤ c.toNat ∧ c.toNat < 127 := by
    simp only [keeps, isAsciiLetter, isAsciiDigit, Bool.or_eq_true, Bool.and_eq_true,
      decide_eq_true_eq, beq_iff_eq] at h
    rcases h with ((((⟨hlow, hhigh⟩ | ⟨hlow, hhigh⟩) | ⟨hlow, hhigh⟩) | rfl) | rfl) | rfl
    · have hlow : 97 ≤ c.toNat := hlow
      have hhigh : c.toNat ≤ 122 := hhigh
      omega
    · have hlow : 65 ≤ c.toNat := hlow
      have hhigh : c.toNat ≤ 90 := hhigh
      omega
    · have hlow : 48 ≤ c.toNat := hlow
      have hhigh : c.toNat ≤ 57 := hhigh
      omega
    · decide
    · decide
    · decide
  simp only [isLineBreak, Bool.or_eq_false_iff, Bool.and_eq_false_iff, decide_eq_false_iff_not,
    beq_eq_false_iff_ne]
  omega

theorem unbroken_ofParts (parts : List (List Char)) : Unbroken (ofParts parts) := by
  intro c hc
  rw [ofParts, Text.trimBy, Text.trimRight, List.mem_reverse] at hc
  have hmem := List.mem_reverse.1 ((List.dropWhile_sublist _).mem hc)
  exact not_isLineBreak_of_keeps (keeps_of_mem_fold ((List.dropWhile_sublist _).mem hmem))

end Identifier

theorem unbroken_findingId (analyzer rule file : String) (line : Int) :
    Text.Unbroken (findingId analyzer rule file line).toList := by
  rw [findingId, String.toList_ofList]
  exact Identifier.unbroken_ofParts _

/-! ### When two identifiers are the same

The words in front of the path are told apart as no heading begins another one, and the line number as
it has no hyphen in it; what is left is the path as identifiers show it, which can be the same for
different paths. -/
namespace Identifier

open Text (isAsciiDigit)

/-- A text as identifiers show it: slashes and every stretch of characters that are not kept are
hyphens. -/
def shown (text : List Char) : List Char := fold (text.map fun c => if c == '/' then '-' else c)

variable {text front back : List Char}

theorem fold_cons_of_keeps {c : Char} (h : keeps c = true) (rest : List Char) :
    fold (c :: rest) = c :: fold rest := by
  cases rest with
  | nil => exact if_pos h
  | cons d rest => rw [fold, if_pos h]

/-- A kept character ends a stretch of others. -/
theorem fold_append_cons {d : Char} (h : keeps d = true) (front rest : List Char) :
    fold (front ++ d :: rest) = fold front ++ fold (d :: rest) := by
  induction front using fold.induct with
  | case1 => rw [List.nil_append, fold, List.nil_append]
  | case2 c hc =>
    rw [List.singleton_append, fold_cons_of_keeps hc, fold, if_pos hc]
    rfl
  | case3 c hc =>
    rw [List.singleton_append, fold.eq_3, if_neg hc, if_pos h, fold, if_neg hc]
    rfl
  | case4 c e rest' hc ih =>
    rw [List.cons_append, fold_cons_of_keeps hc, ih, fold_cons_of_keeps hc]
    rfl
  | case5 c e rest' hc he ih =>
    rw [List.cons_append, List.cons_append, fold, if_neg hc, if_pos he, ← List.cons_append, ih, fold,
      if_neg hc, if_pos he]
    rfl
  | case6 c e rest' hc he ih =>
    rw [List.cons_append, List.cons_append, fold, if_neg hc, if_neg he, ← List.cons_append, ih, fold,
      if_neg hc, if_neg he]

theorem fold_ne_nil (h : text ≠ []) : fold text ≠ [] := by
  induction text using fold.induct with
  | case1 => exact absurd rfl h
  | case2 c hc => rw [fold, if_pos hc]; exact List.cons_ne_nil _ _
  | case3 c hc => rw [fold, if_neg hc]; exact List.cons_ne_nil _ _
  | case4 c e rest hc ih => rw [fold, if_pos hc]; exact List.cons_ne_nil _ _
  | case5 c e rest hc he ih => rw [fold, if_neg hc, if_pos he]; exact List.cons_ne_nil _ _
  | case6 c e rest hc he ih => rw [fold, if_neg hc, if_neg he]; exact ih (List.cons_ne_nil _ _)

theorem shown_append_hyphen (front rest : List Char) :
    shown (front ++ '-' :: rest) = shown front ++ '-' :: shown rest := by
  rw [shown, List.map_append, List.map_cons]
  change fold (_ ++ '-' :: _) = _
  rw [fold_append_cons (by decide), fold_cons_of_keeps (by decide)]
  rfl

theorem shown_of_keeps (h : ∀ c ∈ text, keeps c = true) : shown text = text := by
  induction text with
  | nil => rfl
  | cons c rest ih =>
    rw [List.forall_mem_cons] at h
    have hslash : (c == '/') = false := by
      rw [beq_eq_false_iff_ne]
      rintro rfl
      exact absurd h.1 (by decide)
    rw [shown, List.map_cons, hslash]
    change fold (c :: _) = _
    rw [fold_cons_of_keeps h.1, ← shown, ih h.2]

theorem shown_ne_nil (h : text ≠ []) : shown text ≠ [] :=
  fold_ne_nil fun hnil => h (List.map_eq_nil_iff.1 hnil)

/-- Nothing is taken away from a text without hyphens at its ends. -/
theorem trimBy_hyphen (hhead : text.head? ≠ some '-') (hlast : text.getLast? ≠ some '-') :
    Text.trimBy (· == '-') text = text := by
  have hdrop : ∀ text : List Char, text.head? ≠ some '-' → text.dropWhile (· == '-') = text := by
    intro text h
    cases text with
    | nil => rfl
    | cons c rest => exact List.dropWhile_cons_of_neg (by simpa using h)
  rw [Text.trimBy, Text.trimLeft, Text.trimRight, hdrop text hhead, hdrop text.reverse,
    List.reverse_reverse]
  rwa [List.head?_reverse]

/-! ### Headings and places -/

/-- A word that identifiers show as it is, wherever it stands. -/
structure Word (word : String) : Prop where
  notEmpty : word ≠ ""
  keeps : ∀ c ∈ word.toList, keeps c = true
  head : word.toList.head? ≠ some '-'

instance (word : String) : Decidable (Word word) :=
  decidable_of_iff (word ≠ "" ∧ word.toList.all keeps = true ∧ word.toList.head? ≠ some '-')
    ⟨fun h => ⟨h.1, List.all_eq_true.1 h.2.1, h.2.2⟩,
      fun h => ⟨h.notEmpty, List.all_eq_true.2 h.keeps, h.head⟩⟩

/-- What the identifiers of the findings of a rule begin with. -/
def heading (analyzer rule : String) : List Char := analyzer.toList ++ '-' :: (rule.toList ++ ['-'])

/-- What follows: the path, unless it is empty, and the line. -/
def place (file : String) (line : Nat) : List Char :=
  if file = "" then (toString line).toList
  else shown file.toList ++ '-' :: (toString line).toList

theorem keeps_of_isAsciiDigit {c : Char} (h : isAsciiDigit c = true) : keeps c = true := by
  simp [keeps, h]

theorem not_mem_toString (line : Nat) : '-' ∉ (toString line).toList :=
  fun hmem => absurd (Decimal.isAsciiDigit_toString line _ hmem) (by decide)

theorem getLast?_toString_ne (line : Nat) (text : List Char) :
    (text ++ (toString line).toList).getLast? ≠ some '-' := by
  intro hlast
  rw [List.getLast?_append_of_ne_nil _ (Decimal.toString_toList_ne_nil line)] at hlast
  exact not_mem_toString line (List.mem_of_getLast? hlast)

theorem Word.toList_ne_nil {word : String} (h : Word word) : word.toList ≠ [] :=
  fun hnil => h.notEmpty (String.toList_eq_nil_iff.1 hnil)

theorem Word.isEmpty {word : String} (h : Word word) : word.toList.isEmpty = false :=
  List.isEmpty_eq_false_iff.2 h.toList_ne_nil

/-- The parts put together, before hyphens are taken away from the ends. -/
theorem shown_join {analyzer rule : String} (hanalyzer : Word analyzer) (hrule : Word rule)
    (file : String) (line : Nat) : shown (Text.join ['-'] ([analyzer.toList, rule.toList, file.toList,
      (toString line).toList].filter (!·.isEmpty))) = heading analyzer rule ++ place file line := by
  have hdigits : shown (toString line).toList = (toString line).toList :=
    shown_of_keeps fun c hc => keeps_of_isAsciiDigit (Decimal.isAsciiDigit_toString line c hc)
  rw [place, heading]
  by_cases hfile : file = ""
  · have hparts : [analyzer.toList, rule.toList, file.toList, (toString line).toList].filter
        (!·.isEmpty) = [analyzer.toList, rule.toList, (toString line).toList] := by
      simp [hfile, hanalyzer.isEmpty, hrule.isEmpty]
    have hjoin : Text.join ['-'] [analyzer.toList, rule.toList, (toString line).toList] =
        analyzer.toList ++ '-' :: (rule.toList ++ '-' :: (toString line).toList) := by
      simp [Text.join]
    rw [hparts, hjoin, shown_append_hyphen, shown_append_hyphen, shown_of_keeps hanalyzer.keeps,
      shown_of_keeps hrule.keeps, hdigits, if_pos hfile]
    simp
  · have hempty : file.toList.isEmpty = false :=
      List.isEmpty_eq_false_iff.2 fun hnil => hfile (String.toList_eq_nil_iff.1 hnil)
    have hparts : [analyzer.toList, rule.toList, file.toList, (toString line).toList].filter
        (!·.isEmpty) = [analyzer.toList, rule.toList, file.toList, (toString line).toList] := by
      simp [hempty, hanalyzer.isEmpty, hrule.isEmpty]
    have hjoin : Text.join ['-'] [analyzer.toList, rule.toList, file.toList, (toString line).toList] =
        analyzer.toList ++ '-' :: (rule.toList ++ '-' :: (file.toList ++ '-' ::
          (toString line).toList)) := by
      simp [Text.join]
    rw [hparts, hjoin, shown_append_hyphen, shown_append_hyphen, shown_append_hyphen,
      shown_of_keeps hanalyzer.keeps, shown_of_keeps hrule.keeps, hdigits, if_neg hfile]
    simp

theorem exists_place_eq (file : String) (line : Nat) :
    ∃ front, place file line = front ++ (toString line).toList := by
  rw [place]
  split
  · exact ⟨[], rfl⟩
  · exact ⟨shown file.toList ++ ['-'], by simp⟩

/-- An identifier is a heading and a place. -/
theorem findingId_eq {analyzer rule : String} (hanalyzer : Word analyzer) (hrule : Word rule)
    (file : String) (line : Nat) :
    (findingId analyzer rule file line).toList = heading analyzer rule ++ place file line := by
  have hhead : (heading analyzer rule ++ place file line).head? ≠ some '-' := by
    rw [heading, List.append_assoc, List.head?_append_of_ne_nil _ hanalyzer.toList_ne_nil]
    exact hanalyzer.head
  have hlast : (heading analyzer rule ++ place file line).getLast? ≠ some '-' := by
    obtain ⟨front, hfront⟩ := exists_place_eq file line
    rw [hfront, ← List.append_assoc]
    exact getLast?_toString_ne line _
  rw [← trimBy_hyphen hhead hlast, ← shown_join hanalyzer hrule, findingId, String.toList_ofList]
  rfl

/-! ### Telling identifiers apart -/

/-- The last hyphen divides a text in one way. -/
theorem append_hyphen_inj {first second front back : List Char} (hfront : '-' ∉ front)
    (hback : '-' ∉ back) (h : first ++ '-' :: front = second ++ '-' :: back) :
    first = second ∧ front = back := by
  rcases List.append_eq_append_iff.1 h with ⟨between, rfl, hrest⟩ | ⟨between, rfl, hrest⟩
  · cases between with
    | nil => exact ⟨(List.append_nil _).symm, (List.cons.inj hrest).2⟩
    | cons c between =>
      obtain ⟨-, rfl⟩ := List.cons.inj hrest
      exact absurd (List.mem_append_right _ List.mem_cons_self) hfront
  · cases between with
    | nil => exact ⟨List.append_nil _, (List.cons.inj hrest).2.symm⟩
    | cons c between =>
      obtain ⟨-, rfl⟩ := List.cons.inj hrest
      exact absurd (List.mem_append_right _ List.mem_cons_self) hback

theorem toString_inj {line other : Nat} (h : (toString line).toList = (toString other).toList) :
    line = other := by
  rw [← Decimal.natOfDigits_toString line, h, Decimal.natOfDigits_toString]

/-- Places are the same for the same line and for paths that identifiers show alike. -/
theorem place_eq_iff {file other : String} {line number : Nat} :
    place file line = place other number ↔
      line = number ∧ shown file.toList = shown other.toList := by
  have hempty : ∀ {text : String}, text ≠ "" → shown text.toList ≠ [] := fun h =>
    shown_ne_nil fun hnil => h (String.toList_eq_nil_iff.1 hnil)
  have hnone : ∀ {text : String} {line number : Nat}, (toString line).toList ≠
      shown text.toList ++ '-' :: (toString number).toList := fun heq =>
    not_mem_toString _ (heq ▸ List.mem_append_right _ List.mem_cons_self)
  rw [place, place]
  constructor
  · intro h
    split at h
    · next hfile =>
      split at h
      · next hother => exact ⟨toString_inj h, by rw [hfile, hother]⟩
      · exact absurd h hnone
    · split at h
      · exact absurd h.symm hnone
      · obtain ⟨hshown, hline⟩ := append_hyphen_inj (not_mem_toString _) (not_mem_toString _) h
        exact ⟨toString_inj hline, hshown⟩
  · rintro ⟨rfl, hshown⟩
    by_cases hfile : file = ""
    · by_cases hother : other = ""
      · rw [hfile, hother]
      · rw [hfile] at hshown
        exact absurd hshown.symm (hempty hother)
    · by_cases hother : other = ""
      · rw [hother] at hshown
        exact absurd hshown (hempty hfile)
      · rw [if_neg hfile, if_neg hother, hshown]

/-- Rules whose headings can be told apart: they are made of words, and none begins another one. -/
structure Distinct (rules : List (String × String)) : Prop where
  words : ∀ rule ∈ rules, Word rule.1 ∧ Word rule.2
  free : ∀ rule ∈ rules, ∀ other ∈ rules, heading rule.1 rule.2 <+: heading other.1 other.2 → rule = other

/-- A heading that begins another one shows first which analyzer it is of, and then which rule. -/
theorem heading_prefix {analyzer analyzer' rule rule' : String}
    (h : heading analyzer rule <+: heading analyzer' rule') :
    (analyzer.toList ++ ['-'] <+: analyzer'.toList ++ ['-'] ∨
      analyzer'.toList ++ ['-'] <+: analyzer.toList ++ ['-']) ∧
    (analyzer = analyzer' → rule.toList ++ ['-'] <+: rule'.toList ++ ['-']) := by
  have hfront : ∀ analyzer rule : String,
      heading analyzer rule = analyzer.toList ++ ['-'] ++ (rule.toList ++ ['-']) := by
    intro analyzer rule
    rw [heading, List.append_assoc, List.singleton_append]
  rw [hfront, hfront] at h
  refine ⟨List.prefix_or_prefix_of_prefix ((List.prefix_append _ _).trans h) (List.prefix_append _ _), ?_⟩
  rintro rfl
  exact (List.prefix_append_right_inj _).1 h

/-- Identifiers of distinct rules are the same for one rule, one line and paths that they show alike. -/
theorem findingId_eq_iff {rules : List (String × String)} (h : Distinct rules)
    {analyzer analyzer' rule rule' file file' : String} {line line' : Nat}
    (hrule : (analyzer, rule) ∈ rules) (hrule' : (analyzer', rule') ∈ rules) :
    findingId analyzer rule file line = findingId analyzer' rule' file' line' ↔
      analyzer = analyzer' ∧ rule = rule' ∧ line = line' ∧ shown file.toList = shown file'.toList := by
  have hwords := h.words _ hrule
  have hwords' := h.words _ hrule'
  rw [← String.toList_inj, findingId_eq hwords.1 hwords.2, findingId_eq hwords'.1 hwords'.2]
  constructor
  · intro heq
    have hprefix := List.prefix_append (heading analyzer rule) (place file line)
    have hprefix' := List.prefix_append (heading analyzer' rule') (place file' line')
    rw [← heq] at hprefix'
    -- Both headings begin the one identifier, so one of them begins the other one.
    have hsame : (analyzer, rule) = (analyzer', rule') := by
      rcases List.prefix_or_prefix_of_prefix hprefix hprefix' with hle | hle
      · exact h.free _ hrule _ hrule' hle
      · exact (h.free _ hrule' _ hrule hle).symm
    obtain ⟨rfl, rfl⟩ := Prod.mk.inj hsame
    exact ⟨rfl, rfl, place_eq_iff.1 (List.append_cancel_left heq)⟩
  · rintro ⟨rfl, rfl, hplace⟩
    rw [place_eq_iff.2 hplace]

end Identifier
end KotlinAudit
