import KotlinAudit.Console.Table
import KotlinAudit.Proofs.Text.Lines
import Mathlib.Data.List.DropRight
import Mathlib.Data.List.Forall2

/-! Text laid out on the terminal. What is cut into signs or broken into lines is there as a whole and in its
order, no line is wider than its room, and all lines of a table have the same width. Where widths are added up,
no character may be joined to the one beside it. -/
namespace KotlinAudit.Console

variable {text other line : List Char} {c : Char} {limit size total : Nat} {overflow : Overflow}
  {signs : List Sign}

/-! ### Signs -/

theorem flatMap_signsFrom (text : List Char) (sign : Sign) (last : Option Char) (joined : Bool) :
    (signsFrom sign last joined text).flatMap Sign.text = sign.text ++ text := by
  induction text generalizing sign last joined with
  | nil => simp [signsFrom]
  | cons c rest ih =>
    rw [signsFrom]
    split
    · rw [ih, Sign.push, List.append_assoc, List.singleton_append]
    split
    · rw [ih, Sign.push, List.append_assoc, List.singleton_append]
    split
    · rw [ih, List.append_assoc, List.singleton_append]
    dsimp only
    split
    · rw [ih, Sign.push, List.append_assoc, List.singleton_append]
    · rw [List.flatMap_cons, ih, List.singleton_append]

/-- The signs of a text are the text. -/
theorem flatMap_signs (text : List Char) : (Console.signs text).flatMap Sign.text = text := by
  cases text with
  | nil => rfl
  | cons c rest => exact flatMap_signsFrom _ _ _ _

/-! ### Widths that add up -/

/-- Characters that change nothing of what stands beside them. -/
def Settled (text : List Char) : Prop := ∀ c ∈ text, c ≠ joiner ∧ c ≠ emojiMark

theorem Settled.append (h : Settled text) (hother : Settled other) : Settled (text ++ other) :=
  List.forall_mem_append.2 ⟨h, hother⟩

theorem Settled.of_subset (h : Settled text) (hsub : other ⊆ text) : Settled other :=
  fun c hc => h c (hsub hc)

theorem settled_blanks (count : Nat) : Settled (blanks count) := fun c hc => by
  rw [List.eq_of_mem_replicate hc]
  decide

theorem widthFrom_cons (h : Settled (c :: text)) (last : Option Char) :
    ∃ next, widthFrom last false (c :: text) = cells c + widthFrom next false text := by
  obtain ⟨hjoiner, hmark⟩ := h c List.mem_cons_self
  rw [widthFrom, if_neg Bool.false_ne_true, if_neg (by simpa using hjoiner), if_neg (by simpa using hmark)]
  exact ⟨_, rfl⟩

theorem widthFrom_eq (h : Settled text) (last : Option Char) : widthFrom last false text = width text := by
  induction text generalizing last with
  | nil => rfl
  | cons c rest ih =>
    have hrest : Settled rest := h.of_subset (List.subset_cons_self c rest)
    obtain ⟨next, hnext⟩ := widthFrom_cons h last
    obtain ⟨other, hother⟩ := widthFrom_cons h none
    rw [hnext, width, hother, ih hrest, ih hrest]

theorem width_cons (h : Settled (c :: text)) : width (c :: text) = cells c + width text := by
  obtain ⟨next, hnext⟩ := widthFrom_cons h none
  rw [width, hnext, widthFrom_eq (h.of_subset (List.subset_cons_self c text))]

theorem width_append (h : Settled text) (hother : Settled other) :
    width (text ++ other) = width text + width other := by
  induction text with
  | nil => exact (Nat.zero_add _).symm
  | cons c rest ih =>
    have hrest : Settled rest := h.of_subset (List.subset_cons_self c rest)
    have hall : Settled (c :: (rest ++ other)) := h.append hother
    rw [List.cons_append, width_cons hall, width_cons h, ih hrest, Nat.add_assoc]

theorem width_replicate (hc : Settled [c]) (hcells : cells c = 1) (count : Nat) :
    width (List.replicate count c) = count := by
  have hsettled (count : Nat) : Settled (List.replicate count c) :=
    fun d hd => hc d (List.mem_singleton.2 (List.eq_of_mem_replicate hd))
  induction count with
  | zero => rfl
  | succ count ih =>
    have hcons : Settled (c :: List.replicate count c) := hsettled (count + 1)
    rw [List.replicate_succ, width_cons hcons, hcells, ih, Nat.add_comm]

theorem width_blanks (count : Nat) : width (blanks count) = count :=
  width_replicate (settled_blanks 1) (by decide) count

theorem cells_le (c : Char) : cells c ≤ 2 := by
  unfold cells
  dsimp only
  repeat' split
  all_goals omega

/-! ### The signs of settled text -/

/-- A sign of settled characters, as wide as they are, and no wider than two cells. -/
structure Sign.Plain (sign : Sign) : Prop where
  settled : Settled sign.text
  width_eq : sign.width = Console.width sign.text
  width_le : sign.width ≤ 2

theorem Sign.plain_single (h : Settled [c]) : (Sign.mk [c] (cells c)).Plain :=
  ⟨h, by rw [width_cons h]; rfl, cells_le c⟩

theorem Sign.Plain.push {sign : Sign} (h : sign.Plain) (hc : Settled [c]) (hcells : cells c = 0) :
    (sign.push c).Plain where
  settled := h.settled.append hc
  width_eq := by
    rw [Sign.push, width_append h.settled hc, width_cons hc, hcells]
    exact h.width_eq
  width_le := h.width_le

/-- Only the first sign can be without width. -/
theorem exists_signsFrom (h : Settled text) {sign : Sign} (hsign : sign.Plain) (last : Option Char) :
    ∃ first rest, signsFrom sign last false text = first :: rest ∧ first.Plain ∧
      first.width = sign.width ∧ ∀ next ∈ rest, next.Plain ∧ 0 < next.width := by
  induction text generalizing sign last with
  | nil => exact ⟨sign, [], rfl, hsign, rfl, List.forall_mem_nil _⟩
  | cons c rest ih =>
    have hrest : Settled rest := h.of_subset (List.subset_cons_self c rest)
    have hsingle : Settled [c] := h.of_subset (List.cons_subset_cons c (List.nil_subset rest))
    obtain ⟨hjoiner, hmark⟩ := h c List.mem_cons_self
    rw [signsFrom, if_neg Bool.false_ne_true, if_neg (by simpa using hjoiner),
      if_neg (by simpa using hmark)]
    dsimp only
    split
    · rename_i hcells
      exact ih hrest (hsign.push hsingle (beq_iff_eq.1 hcells)) last
    · rename_i hcells
      obtain ⟨first, others, heq, hfirst, hwidth, hothers⟩ := ih hrest (Sign.plain_single hsingle) (some c)
      have hpos : 0 < first.width := by
        rw [hwidth]
        exact Nat.pos_of_ne_zero (by simpa using hcells)
      exact ⟨sign, first :: others, by rw [heq], hsign, rfl, List.forall_mem_cons.2 ⟨⟨hfirst, hpos⟩, hothers⟩⟩

theorem exists_signs (h : Settled (c :: text)) : ∃ first rest,
    Console.signs (c :: text) = first :: rest ∧ first.Plain ∧ ∀ next ∈ rest, next.Plain ∧ 0 < next.width := by
  have hsingle : Settled [c] := h.of_subset (List.cons_subset_cons c (List.nil_subset text))
  obtain ⟨hjoiner, hmark⟩ := h c List.mem_cons_self
  have hown : (if c == joiner || c == emojiMark then 0 else cells c) = cells c :=
    if_neg (by simp [hjoiner, hmark])
  rw [Console.signs, hown]
  obtain ⟨first, rest, heq, hfirst, -, hrest⟩ := exists_signsFrom
    (h.of_subset (List.subset_cons_self c text)) (Sign.plain_single hsingle) _
  exact ⟨first, rest, heq, hfirst, hrest⟩

theorem plain_of_mem_signs (h : Settled text) : ∀ sign ∈ Console.signs text, sign.Plain := by
  cases text with
  | nil => exact List.forall_mem_nil _
  | cons c rest =>
    obtain ⟨first, others, heq, hfirst, hothers⟩ := exists_signs h
    rw [heq]
    exact List.forall_mem_cons.2 ⟨hfirst, fun sign hsign => (hothers sign hsign).1⟩

theorem settled_flatMap (h : ∀ sign ∈ signs, sign.Plain) : Settled (signs.flatMap Sign.text) := by
  intro c hc
  obtain ⟨sign, hsign, hmem⟩ := List.mem_flatMap.1 hc
  exact (h sign hsign).settled c hmem

/-! ### Text in its room -/

theorem width_beginning (h : ∀ sign ∈ signs, sign.Plain) (htotal : total ≤ width (signs.flatMap Sign.text)) :
    Settled (beginning total signs) ∧ width (beginning total signs) = total := by
  induction signs generalizing total with
  | nil => exact ⟨List.forall_mem_nil _, (Nat.le_zero.1 htotal).symm⟩
  | cons sign rest ih =>
    obtain ⟨hsign, hrest⟩ := List.forall_mem_cons.1 h
    rw [List.flatMap_cons, width_append hsign.settled (settled_flatMap hrest), ← hsign.width_eq] at htotal
    have hle := hsign.width_le
    rw [beginning]
    split
    · rename_i hzero
      exact ⟨List.forall_mem_nil _, (beq_iff_eq.1 hzero).symm⟩
    · rename_i hzero
      split
      · rename_i hfits
        have hle : total - sign.width ≤ width (rest.flatMap Sign.text) := by omega
        obtain ⟨hsettled, hwidth⟩ := ih hrest hle
        refine ⟨hsign.settled.append hsettled, ?_⟩
        rw [width_append hsign.settled hsettled, hwidth, ← hsign.width_eq]
        omega
      · rename_i hcut
        have hone : total = 1 := by
          have : total ≠ 0 := by simpa using hzero
          omega
        rw [hone]
        exact ⟨settled_blanks 1, width_blanks 1⟩

/-- Fitted text fills its room. -/
theorem width_fitted (h : Settled text) (total : Nat) :
    Settled (fitted total text) ∧ width (fitted total text) = total := by
  rw [fitted]
  split
  · rename_i hzero
    exact ⟨List.forall_mem_nil _, (beq_iff_eq.1 hzero).symm⟩
  split
  · refine ⟨h.append (settled_blanks _), ?_⟩
    rw [width_append h (settled_blanks _), width_blanks]
    omega
  · rename_i hwide
    refine width_beginning (plain_of_mem_signs h) ?_
    rw [flatMap_signs]
    omega

theorem settled_shortened (h : Settled text) (total : Nat) : Settled (shortened total text) := by
  rw [shortened]
  split
  · exact h
  · exact (width_fitted h _).1.append (by intro c hc; rw [List.mem_singleton.1 hc]; decide)

/-! ### Folding -/

theorem flatten_foldedFrom (hpos : ∀ sign ∈ signs, 0 < sign.width) (h : signs ≠ [] ∨ 0 < size)
    (text : List Char) :
    (foldedFrom limit size text signs).flatten = text ++ signs.flatMap Sign.text := by
  induction signs generalizing size text with
  | nil =>
    have hsize : size ≠ 0 := (h.resolve_left fun hne => hne rfl).ne'
    simp [foldedFrom, hsize]
  | cons sign rest ih =>
    obtain ⟨hsign, hrest⟩ := List.forall_mem_cons.1 hpos
    rw [foldedFrom]
    split
    · rw [List.flatten_cons, ih hrest (.inr hsign), List.flatMap_cons]
    · rw [ih hrest (.inr (by omega)), List.flatMap_cons, List.append_assoc]

/-- Text that has a width is folded as a whole. -/
theorem flatten_folded (h : Settled text) (hwidth : 0 < width text) (limit : Nat) :
    (folded limit text).flatten = text := by
  cases text with
  | nil => cases hwidth
  | cons c rest =>
    obtain ⟨first, others, heq, hfirst, hothers⟩ := exists_signs h
    have htext : first.text ++ others.flatMap Sign.text = c :: rest := by
      rw [← List.flatMap_cons, ← heq, flatMap_signs]
    have hpos : ∀ sign ∈ others, 0 < sign.width := fun sign hsign => (hothers sign hsign).2
    have hsize : others ≠ [] ∨ 0 < first.width := by
      refine or_iff_not_imp_left.2 fun hnil => ?_
      rw [not_not.1 hnil, List.flatMap_nil, List.append_nil] at htext
      rwa [hfirst.width_eq, htext]
    rw [folded, heq, foldedFrom, Nat.zero_add, List.nil_append]
    split
    · rw [List.flatten_cons, flatten_foldedFrom hpos hsize, List.nil_append, htext]
    · rw [flatten_foldedFrom hpos hsize, htext]

theorem width_le_of_mem_foldedFrom (hlimit : 2 ≤ limit) (hplain : ∀ sign ∈ signs, sign.Plain)
    (h : Settled text) (hsize : width text = size) (hle : size ≤ limit) :
    ∀ piece ∈ foldedFrom limit size text signs, width piece ≤ limit := by
  induction signs generalizing size text with
  | nil =>
    rw [foldedFrom]
    split
    · exact List.forall_mem_nil _
    · exact List.forall_mem_singleton.2 (hsize ▸ hle)
  | cons sign rest ih =>
    obtain ⟨hsign, hrest⟩ := List.forall_mem_cons.1 hplain
    rw [foldedFrom]
    split
    · refine List.forall_mem_cons.2 ⟨hsize ▸ hle, ?_⟩
      exact ih hrest hsign.settled hsign.width_eq.symm (hsign.width_le.trans hlimit)
    · refine ih hrest (h.append hsign.settled) ?_ (by omega)
      rw [width_append h hsign.settled, hsize, hsign.width_eq]

/-- No part of a folded text is wider than the limit. -/
theorem width_le_of_mem_folded (hlimit : 2 ≤ limit) (h : Settled text) :
    ∀ piece ∈ folded limit text, width piece ≤ limit :=
  width_le_of_mem_foldedFrom hlimit (plain_of_mem_signs h) (List.forall_mem_nil _) rfl (Nat.zero_le limit)

/-! ### Lines broken between words -/

theorem flatten_spacedWordsFrom (word text : List Char) (h : (word ++ text).all Text.isBlank = false) :
    (spacedWordsFrom word text).flatten = word ++ text := by
  induction text generalizing word with
  | nil =>
    rw [List.append_nil] at h
    simp [spacedWordsFrom, h]
  | cons c rest ih =>
    rw [spacedWordsFrom]
    split
    · rename_i hended
      have hc : Text.isBlank c = false := by
        simpa using (Bool.and_eq_true_iff.1 hended).2
      rw [List.flatten_cons, ih [c] (by simp [hc]), List.singleton_append]
    · rw [ih (word ++ [c]) (by simpa using h), List.append_assoc, List.singleton_append]

theorem spacedWordsFrom_of_blank (word text : List Char) (h : (word ++ text).all Text.isBlank = true) :
    spacedWordsFrom word text = [] := by
  induction text generalizing word with
  | nil =>
    rw [List.append_nil] at h
    rw [spacedWordsFrom, if_pos h]
  | cons c rest ih =>
    have hword : word.all Text.isBlank = true := by
      rw [List.all_append, Bool.and_eq_true] at h
      exact h.1
    rw [spacedWordsFrom]
    rw [hword, Bool.not_true, Bool.false_and, Bool.false_and, if_neg Bool.false_ne_true]
    exact ih (word ++ [c]) (by simpa using h)

theorem width_le_of_isPrefix (h : Settled text) (hbegins : other <+: text) : width other ≤ width text := by
  obtain ⟨rest, rfl⟩ := hbegins
  rw [width_append (h.of_subset (List.subset_append_left other rest))
    (h.of_subset (List.subset_append_right other rest))]
  exact Nat.le_add_right _ _

theorem trimRight_isPrefix (text : List Char) : Text.trimRight Text.isBlank text <+: text :=
  List.rdropWhile_prefix Text.isBlank text

theorem width_trimRight_append_le (h : Settled line) (hother : Settled other)
    (hline : width (Text.trimRight Text.isBlank line) ≤ limit)
    (hsum : width line + width (Text.trimRight Text.isBlank other) ≤ limit) :
    width (Text.trimRight Text.isBlank (line ++ other)) ≤ limit := by
  have htrim : Text.trimRight Text.isBlank (line ++ other) =
      if (Text.trimRight Text.isBlank other).isEmpty then Text.trimRight Text.isBlank line
      else line ++ Text.trimRight Text.isBlank other := by
    unfold Text.trimRight
    rw [List.reverse_append, List.dropWhile_append, List.isEmpty_reverse]
    split
    · rfl
    · rw [List.reverse_append, List.reverse_reverse]
  rw [htrim]
  split
  · exact hline
  · rwa [width_append h (hother.of_subset (trimRight_isPrefix other).subset)]

/-- The parts of a word with which a line begins. -/
theorem exists_wordParts {word : List Char} (h : Settled word) (limit : Nat) (overflow : Overflow) :
    ∃ front last, (if limit < width (Text.trimRight Text.isBlank word) && overflow == .fold
        then folded limit word else [word]) = front ++ [last] ∧ front.flatten ++ last = word ∧
      (2 ≤ limit → overflow = .fold →
        (∀ part ∈ front, width part ≤ limit) ∧ width (Text.trimRight Text.isBlank last) ≤ limit) := by
  split
  · rename_i hfold
    have hwide : limit < width (Text.trimRight Text.isBlank word) :=
      of_decide_eq_true (Bool.and_eq_true_iff.1 hfold).1
    have hpos : 0 < width word :=
      (Nat.zero_lt_of_lt hwide).trans_le (width_le_of_isPrefix h (trimRight_isPrefix word))
    have hflatten := flatten_folded h hpos limit
    obtain hnil | ⟨front, last, heq⟩ := (folded limit word).eq_nil_or_concat
    · rw [← hflatten, hnil] at hpos
      exact absurd hpos (Nat.lt_irrefl 0)
    · rw [List.concat_eq_append] at heq
      refine ⟨front, last, heq, by rw [← hflatten, heq, List.flatten_concat], fun hlimit _ => ?_⟩
      have hparts := width_le_of_mem_folded hlimit h
      rw [heq, List.forall_mem_append, List.forall_mem_singleton] at hparts
      have hlast : Settled last := h.of_subset fun c hc => by
        rw [← hflatten, heq, List.flatten_concat]
        exact List.mem_append_right _ hc
      exact ⟨hparts.1, (width_le_of_isPrefix hlast (trimRight_isPrefix last)).trans hparts.2⟩
  · rename_i hfits
    refine ⟨[], word, rfl, rfl, fun _ hoverflow => ⟨List.forall_mem_nil _, ?_⟩⟩
    simpa [hoverflow] using hfits

theorem flatten_begun (line : List Char) : (begun line).flatten = line := by
  unfold begun
  split
  · rename_i h
    exact (List.isEmpty_iff.1 h).symm
  · exact List.append_nil line

theorem flatten_brokenFrom {words : List (List Char)} (h : ∀ word ∈ words, Settled word) (line : List Char)
    (size : Nat) : (brokenFrom limit overflow line size words).flatten = line ++ words.flatten := by
  induction words generalizing line size with
  | nil => simp [brokenFrom]
  | cons word rest ih =>
    obtain ⟨hword, hrest⟩ := List.forall_mem_cons.1 h
    obtain ⟨front, last, heq, hparts, -⟩ := exists_wordParts hword limit overflow
    rw [brokenFrom]
    dsimp only
    split
    · rw [ih hrest, List.flatten_cons, List.append_assoc]
    · rw [heq, List.dropLast_concat, List.getLast?_concat, Option.getD_some, List.flatten_append,
        List.flatten_append, ih hrest, flatten_begun, List.flatten_cons, ← hparts]
      simp only [List.append_assoc]

/-- Breaking a line loses nothing and adds nothing. -/
theorem flatten_broken (h : Settled text) (limit : Nat) (overflow : Overflow) :
    (broken limit overflow text).flatten = text := by
  by_cases hblank : text.all Text.isBlank = true
  · rw [broken, spacedWordsFrom_of_blank [] text hblank]
    exact List.flatten_singleton
  · have hflatten := flatten_spacedWordsFrom [] text (Bool.eq_false_iff.2 hblank)
    have hwords : ∀ word ∈ spacedWordsFrom [] text, Settled word := fun word hword =>
      h.of_subset fun c hc => by
        rw [← List.nil_append text, ← hflatten]
        exact List.mem_flatten_of_mem hword hc
    rw [broken]
    split
    · exact List.flatten_singleton
    · rw [flatten_brokenFrom hwords, List.nil_append, hflatten, List.nil_append]

theorem width_le_of_mem_brokenFrom (hlimit : 2 ≤ limit) {words : List (List Char)}
    (h : ∀ word ∈ words, Settled word) (hline : Settled line) (hsize : width line = size)
    (hle : width (Text.trimRight Text.isBlank line) ≤ limit) :
    ∀ part ∈ brokenFrom limit .fold line size words, width (Text.trimRight Text.isBlank part) ≤ limit := by
  induction words generalizing line size with
  | nil => exact List.forall_mem_singleton.2 hle
  | cons word rest ih =>
    obtain ⟨hword, hrest⟩ := List.forall_mem_cons.1 h
    obtain ⟨front, last, heq, hparts, hwidths⟩ := exists_wordParts hword limit .fold
    obtain ⟨hfront, hlast⟩ := hwidths hlimit rfl
    have hsub : last ⊆ word ∧ ∀ part ∈ front, part ⊆ word := by
      rw [← hparts]
      exact ⟨List.subset_append_right _ _, fun part hpart c hc =>
        List.mem_append_left _ (List.mem_flatten_of_mem hpart hc)⟩
    rw [brokenFrom]
    dsimp only
    split
    · rename_i hfits
      refine ih hrest (hline.append hword) (by rw [width_append hline hword, hsize]) ?_
      exact width_trimRight_append_le hline hword hle (hsize ▸ hfits)
    · rw [heq, List.dropLast_concat, List.getLast?_concat, Option.getD_some, List.forall_mem_append,
        List.forall_mem_append]
      refine ⟨⟨?_, fun part hpart => ?_⟩, ih hrest (hword.of_subset hsub.1) rfl hlast⟩
      · unfold begun
        split
        · exact List.forall_mem_nil _
        · exact List.forall_mem_singleton.2 hle
      · exact (width_le_of_isPrefix (hword.of_subset (hsub.2 part hpart)) (trimRight_isPrefix part)).trans
          (hfront part hpart)

theorem settled_of_mem_spacedWordsFrom (h : Settled text) :
    ∀ word ∈ spacedWordsFrom [] text, Settled word := by
  by_cases hblank : text.all Text.isBlank = true
  · rw [spacedWordsFrom_of_blank [] text hblank]
    exact List.forall_mem_nil _
  · intro word hword
    refine h.of_subset fun c hc => ?_
    rw [← List.nil_append text, ← flatten_spacedWordsFrom [] text (Bool.eq_false_iff.2 hblank)]
    exact List.mem_flatten_of_mem hword hc

/-- No line that a line is broken into is wider than the limit, the blanks at its end aside. -/
theorem width_le_of_mem_broken (hlimit : 2 ≤ limit) (h : Settled text) :
    ∀ part ∈ broken limit .fold text, width (Text.trimRight Text.isBlank part) ≤ limit := by
  by_cases hblank : text.all Text.isBlank = true
  · have htrim : Text.trimRight Text.isBlank text = [] :=
      List.rdropWhile_eq_nil_iff.2 (List.all_eq_true.1 hblank)
    rw [broken, spacedWordsFrom_of_blank [] text hblank, List.forall_mem_singleton, htrim]
    exact Nat.zero_le limit
  · rw [broken]
    split
    · rename_i hnil
      have hflatten := flatten_spacedWordsFrom [] text (Bool.eq_false_iff.2 hblank)
      rw [hnil, List.nil_append] at hflatten
      rw [← hflatten] at hblank
      exact absurd rfl hblank
    · exact width_le_of_mem_brokenFrom hlimit (settled_of_mem_spacedWordsFrom h) (List.forall_mem_nil _) rfl
        (Nat.zero_le limit)

/-! ### Lines of a text -/

theorem subset_of_mem_splitAll {isSeparator : Char → Bool} :
    ∀ piece ∈ Text.splitAll isSeparator text, piece ⊆ text := by
  induction text with
  | nil => simp [Text.splitAll]
  | cons c rest ih =>
    intro piece hpiece
    obtain ⟨first, others, heq⟩ := Text.exists_splitAll_cons isSeparator rest
    rw [heq, List.forall_mem_cons] at ih
    rw [Text.splitAll, heq] at hpiece
    split at hpiece
    · obtain rfl | hrest := List.mem_cons.1 hpiece
      · exact List.nil_subset _
      · obtain rfl | hother := List.mem_cons.1 hrest
        · exact List.subset_cons_of_subset c ih.1
        · exact List.subset_cons_of_subset c (ih.2 piece hother)
    · obtain rfl | hother := List.mem_cons.1 hpiece
      · exact List.cons_subset_cons c ih.1
      · exact List.subset_cons_of_subset c (ih.2 piece hother)

theorem settled_tabbedFrom {parts : List (List Char)} (h : ∀ part ∈ parts, Settled part) (column : Nat) :
    Settled (tabbedFrom column parts) := by
  induction parts generalizing column with
  | nil => exact List.forall_mem_nil _
  | cons part rest ih =>
    obtain ⟨hpart, hrest⟩ := List.forall_mem_cons.1 h
    cases rest with
    | nil => exact hpart
    | cons next others =>
      rw [tabbedFrom]
      swap
      · exact List.cons_ne_nil next others
      exact ((hpart.append (settled_blanks 1)).append (settled_blanks _)).append (ih hrest _)

theorem settled_of_mem_printedLines (h : Settled text) : ∀ line ∈ printedLines text, Settled line := by
  intro line hline
  obtain ⟨piece, hpiece, rfl⟩ := List.mem_map.1 hline
  have hsettled : Settled piece :=
    h.of_subset (List.Subset.trans (subset_of_mem_splitAll piece hpiece) (List.filter_subset_self _))
  exact settled_tabbedFrom (fun part hpart => hsettled.of_subset (subset_of_mem_splitAll part hpart)) 0

theorem settled_aligned (h : Settled text) (limit : Nat) (overflow : Overflow) (alignment : Alignment) :
    Settled (aligned limit overflow alignment text) := by
  have htruncated {line : List Char} (hline : Settled line) : Settled (truncated limit overflow line) := by
    unfold truncated
    split
    · exact hline
    · cases overflow with
      | fold => exact (width_fitted hline limit).1
      | ellipsis => exact settled_shortened hline limit
  cases alignment with
  | left => exact (htruncated h).append (settled_blanks _)
  | right => exact (settled_blanks _).append (htruncated (h.of_subset (trimRight_isPrefix text).subset))

/-- The lines of a text fill the room they stand in. -/
theorem width_of_mem_wrapped (h : Settled text) (limit : Nat) (breaks : Bool) (overflow : Overflow)
    (alignment : Alignment) :
    ∀ line ∈ wrapped limit breaks overflow alignment text, Settled line ∧ width line = limit := by
  intro line hline
  obtain ⟨printed, hprinted, hline⟩ := List.mem_flatMap.1 hline
  obtain ⟨part, hpart, rfl⟩ := List.mem_map.1 hline
  have hsettled := settled_of_mem_printedLines h printed hprinted
  have hsub : part ⊆ printed := by
    split at hpart
    · rw [← flatten_broken hsettled limit overflow]
      exact fun c hc => List.mem_flatten_of_mem hpart hc
    · rw [List.mem_singleton.1 hpart]
      exact List.Subset.refl _
  exact width_fitted (settled_aligned
    ((hsettled.of_subset hsub).of_subset (List.take_subset _ part)) limit overflow alignment) limit

/-! ### Tables -/

/-- The lines of a cell are as wide as its column. -/
theorem Column.width_of_mem_cellLines {column : Column} (h : Settled text) (hmargin : column.margin ≤ total) :
    ∀ line ∈ column.cellLines total text, Settled line ∧ Console.width line = total := by
  intro line hline
  obtain ⟨inner, hinner, rfl⟩ := List.mem_map.1 hline
  obtain ⟨hsettled, hwidth⟩ := width_of_mem_wrapped h _ _ _ _ inner hinner
  have hleft := (settled_blanks column.blanksLeft).append hsettled
  refine ⟨hleft.append (settled_blanks _), ?_⟩
  rw [width_append hleft (settled_blanks _), width_append (settled_blanks _) hsettled, width_blanks,
    width_blanks, hwidth]
  unfold Column.margin at hmargin ⊢
  omega

theorem sum_cons (own : Nat) (widths : List Nat) : sum (own :: widths) = own + sum widths := by
  rw [sum, sum, List.foldl_cons, Nat.zero_add, ← Nat.add_zero own, List.foldl_assoc, Nat.add_zero]

/-- Texts are as wide as the columns they stand in. -/
abbrev Fill (parts : List (List Char)) (widths : List Nat) : Prop :=
  List.Forall₂ (fun part own => Settled part ∧ width part = own) parts widths

theorem Fill.join {parts : List (List Char)} {widths : List Nat} (h : Fill parts widths) (hne : parts ≠ []) :
    Settled (Text.join [' '] parts) ∧ width (Text.join [' '] parts) + 1 = sum widths + widths.length := by
  induction h with
  | nil => exact absurd rfl hne
  | @cons part own others rest hpart hrest ih =>
    cases hrest with
    | nil =>
      rw [Text.join, List.intercalate_singleton, ← hpart.2, sum_cons]
      exact ⟨hpart.1, rfl⟩
    | @cons next size others rest hnext hrest =>
      obtain ⟨hsettled, hwidth⟩ := ih (List.cons_ne_nil _ _)
      have hblank : Settled [' '] := settled_blanks 1
      have htail : Settled (' ' :: Text.join [' '] (next :: others)) := hblank.append hsettled
      rw [Text.join_cons_cons]
      refine ⟨hpart.1.append htail, ?_⟩
      rw [width_append hpart.1 htail, width_cons htail, hpart.2, sum_cons, List.length_cons]
      have hcell : cells ' ' = 1 := by decide
      omega

/-- Parts side by side, with a blank between them and around them. -/
theorem Fill.width_row {parts : List (List Char)} {widths : List Nat} (h : Fill parts widths)
    (hne : parts ≠ []) :
    width (' ' :: Text.join [' '] parts ++ [' ']) = sum widths + (widths.length + 1) := by
  obtain ⟨hsettled, hwidth⟩ := h.join hne
  have hblank : Settled [' '] := settled_blanks 1
  have hcell : cells ' ' = 1 := by decide
  have htail := hsettled.append hblank
  have hall : Settled (' ' :: (Text.join [' '] parts ++ [' '])) := hblank.append htail
  rw [List.cons_append, width_cons hall, width_append hsettled hblank, width_cons hblank, hcell]
  have hnil : width [] = 0 := rfl
  omega

/-- The widths of columns leave room for the blanks of their cells. -/
abbrev Roomy (columns : List Column) (widths : List Nat) : Prop :=
  List.Forall₂ (fun column own => column.margin ≤ own) columns widths

theorem Column.margin_le_measure (column : Column) (limit : Nat) (cells : List (List Char)) :
    column.margin ≤ column.measure limit cells :=
  (Nat.le_add_left _ _).trans (Nat.le_max_right _ _)

theorem length_reducedFrom (excess shares : Nat) (most : Nat → Nat) (widths : List (Nat × Bool)) :
    (reducedFrom excess shares most widths).length = widths.length := by
  induction widths generalizing excess shares with
  | nil => rfl
  | cons own rest ih =>
    obtain ⟨own, mayShrink⟩ := own
    rw [reducedFrom]
    split <;> rw [List.length_cons, List.length_cons, ih]

theorem length_collapsed (limit : Nat) (shrinks : List Bool) (steps : Nat) {widths : List Nat}
    (h : shrinks.length = widths.length) : (collapsed limit shrinks steps widths).length = widths.length := by
  induction steps generalizing widths with
  | zero => rfl
  | succ steps ih =>
    rw [collapsed]
    dsimp only
    split
    · rfl
    split
    · rfl
    · have hlength (excess : Nat) (most : Nat → Nat) (mark : Nat × Bool → Nat × Bool) :
          (reduced excess most ((widths.zip shrinks).map mark)).length = widths.length := by
        rw [reduced, length_reducedFrom, List.length_map, List.length_zip, h, Nat.min_self]
      rw [ih (by rw [hlength, h]), hlength]

theorem roomy_zipWith {columns : List (Column × List (List Char))} {widths : List Nat}
    (h : widths.length = columns.length) :
    Roomy (columns.map (·.1)) (List.zipWith (fun own (column, cells) => column.measure own cells) widths
      columns) := by
  induction columns generalizing widths with
  | nil => rw [List.zipWith_nil_right]; exact .nil
  | cons column rest ih =>
    obtain ⟨own, others, rfl⟩ := List.exists_cons_of_length_eq_add_one h
    exact .cons (column.1.margin_le_measure own column.2) (ih (Nat.succ.inj h))

theorem roomy_sharedWidths (limit : Nat) (columns : List (Column × List (List Char))) :
    Roomy (columns.map (·.1)) (sharedWidths limit columns) := by
  unfold sharedWidths
  dsimp only
  split
  · rw [Roomy, List.forall₂_map_left_iff, List.forall₂_map_right_iff]
    refine List.forall₂_same.2 fun column _ => ?_
    exact (column.1.margin_le_measure limit column.2).trans (Nat.le_max_right _ _)
  · refine roomy_zipWith ?_
    generalize hwidths : columns.map (fun column => max 1 (column.1.measure limit column.2)) = widths
    have hcolumns : columns.length = widths.length := by rw [← hwidths, List.length_map]
    have hlength := length_collapsed limit (columns.map (·.1.breaks)) (sum widths)
      ((List.length_map _).trans hcolumns)
    rw [hcolumns]
    split
    · exact hlength
    · rw [reduced, length_reducedFrom, List.length_map]
      exact hlength

variable {columns : List Column} {widths : List Nat} {row : List (List Char)}

theorem fill_cells (hroomy : Roomy columns widths) (hlength : row.length = columns.length)
    (hrow : ∀ text ∈ row, Settled text) (index : Nat) :
    Fill (List.zipWith (fun (_, total) (lines : List (List Char)) => lines[index]?.getD (blanks total))
      (columns.zip widths)
      (List.zipWith (fun (column, total) text => column.cellLines total text) (columns.zip widths) row))
      widths := by
  induction hroomy generalizing row with
  | nil => exact .nil
  | @cons column own columns widths hmargin _ ih =>
    obtain ⟨text, others, rfl⟩ := List.exists_cons_of_length_eq_add_one hlength
    obtain ⟨htext, hothers⟩ := List.forall_mem_cons.1 hrow
    refine .cons ?_ (ih (Nat.succ.inj hlength) hothers)
    dsimp only
    cases hline : (column.cellLines own text)[index]? with
    | none => exact ⟨settled_blanks _, width_blanks _⟩
    | some line => exact Column.width_of_mem_cellLines htext hmargin line (List.mem_of_getElem? hline)

/-- The lines of a row have the same width. -/
theorem width_of_mem_rowLines (hne : columns ≠ []) (hroomy : Roomy columns widths)
    (hlength : row.length = columns.length) (hrow : ∀ text ∈ row, Settled text) :
    ∀ line ∈ rowLines (columns.zip widths) row, width line = sum widths + (columns.length + 1) := by
  intro line hline
  obtain ⟨index, -, rfl⟩ := List.mem_map.1 hline
  have hfill := fill_cells hroomy hlength hrow index
  rw [hroomy.length_eq]
  refine hfill.width_row fun hnil => hne (List.length_eq_zero_iff.1 ?_)
  rw [hroomy.length_eq, ← hfill.length_eq, hnil, List.length_nil]

theorem width_ruled (h : Settled [c]) (hcells : cells c = 1) (count : Nat) :
    width (' ' :: List.replicate count c ++ [' ']) = count + 2 := by
  have hblank : Settled [' '] := settled_blanks 1
  have hrule : Settled (List.replicate count c) :=
    fun d hd => h d (List.mem_singleton.2 (List.eq_of_mem_replicate hd))
  have hall : Settled (' ' :: (List.replicate count c ++ [' '])) := hblank.append (hrule.append hblank)
  rw [List.cons_append, width_cons hall, width_append hrule hblank, width_replicate h hcells]
  have hcell : cells ' ' = 1 := by decide
  have hend : width [' '] = 1 := width_blanks 1
  omega

/-- Tables are rectangular: all their lines have the same width. -/
theorem exists_width_tableLines {rule : Option Char} {rows : List (List (List Char))} (hne : columns ≠ [])
    (hheadings : ∀ column ∈ columns, Settled column.heading)
    (hsign : ∀ sign ∈ rule, Settled [sign] ∧ cells sign = 1)
    (hrows : ∀ row ∈ rows, row.length = columns.length ∧ ∀ text ∈ row, Settled text) :
    ∃ total, ∀ line ∈ tableLines columns rule rows, width line.toList = total := by
  unfold tableLines
  dsimp only
  generalize hwidths : sharedWidths _ _ = widths
  have hroomy : Roomy columns widths := by
    have := roomy_sharedWidths (lineWidth - (columns.length + 1)) (columns.zipIdx.map fun column =>
      (column.1, (if rule.isSome then columns.map (·.heading) :: rows else rows).map fun row =>
        row[column.2]?.getD []))
    rw [hwidths, List.map_map] at this
    simpa [Function.comp_def] using this
  refine ⟨sum widths + (columns.length + 1), List.forall_mem_map.2 fun line hline => ?_⟩
  rw [String.toList_ofList]
  obtain rfl | hline := List.mem_cons.1 hline
  · exact width_blanks _
  obtain hline | hedge := List.mem_append.1 hline
  · obtain hhead | hbody := List.mem_append.1 hline
    · cases rule with
      | none => cases hhead
      | some sign =>
        obtain hnames | hrule := List.mem_append.1 hhead
        · refine width_of_mem_rowLines hne hroomy (List.length_map _) ?_ line hnames
          exact List.forall_mem_map.2 hheadings
        · have hpos := List.length_pos_iff.2 hne
          rw [List.mem_singleton.1 hrule, width_ruled (hsign sign rfl).1 (hsign sign rfl).2]
          omega
    · obtain ⟨row, hrow, hline⟩ := List.mem_flatMap.1 hbody
      exact width_of_mem_rowLines hne hroomy (hrows row hrow).1 (hrows row hrow).2 line hline
  · rw [List.mem_singleton.1 hedge, width_blanks]

end KotlinAudit.Console
