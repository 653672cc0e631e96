import KotlinAudit.Proofs.Source.Declaration
import KotlinAudit.Proofs.Text.Lines
import KotlinAudit.Rule.Compose

/-! Which functions are taken for composable ones. Every line that mentions the annotation gives it to the next
function below, whatever stands between. So a function is taken for a composable one although it is not annotated
when each mention is part of its own signature or has a line of another declaration below. -/
namespace KotlinAudit.Rule.Compose

open Source (functionHeader startsWith declarationStart Heads StandsFirst)
open Text (Line)

/-- The annotation of composable functions. -/
def tag : List Char := "@Composable".toList

/-- The line with an index mentions the annotation. -/
def Marked (lines : List Line) (mark : Nat) : Prop := ∃ line, lines[mark]? = some line ∧ tag <:+: line

/-- The header of a function starts on the line with an index. -/
def Headed (lines : List Line) (index : Nat) : Prop :=
  ∃ line, lines[index]? = some line ∧ functionHeader.matchesStart line = true

/-- The function at an index is the first one from a mention of the annotation on, and within reach of it. -/
structure Reaches (lines : List Line) (mark index : Nat) : Prop where
  marked : Marked lines mark
  le : mark ≤ index
  near : index ≤ mark + annotationReach
  headed : Headed lines index
  first : ∀ between, mark ≤ between → between < index → ¬Headed lines between

/-- Kinds of declarations that can be annotated. -/
def kinds : List String := ["class", "interface", "object", "fun", "val", "var", "typealias"]

/-- A line that is blank, a comment or an annotation, and declares nothing. -/
def Quiet (line : Line) : Prop :=
  Text.trim line = [] ∨ (∃ sign ∈ ["//", "/*", "*"], startsWith sign line = true) ∨
    startsWith "@" line = true ∧ (declarationStart kinds).matchesStart line = false

instance (line : Line) : Decidable (Quiet line) :=
  inferInstanceAs (Decidable (Text.trim line = [] ∨ (∃ sign ∈ ["//", "/*", "*"], startsWith sign line = true) ∨
    startsWith "@" line = true ∧ (declarationStart kinds).matchesStart line = false))

/-- All lines from one index to another, which is left out, are quiet. -/
def QuietBetween (lines : List Line) (mark index : Nat) : Prop :=
  ∀ between, mark ≤ between → between < index → ∀ line, lines[between]? = some line → Quiet line

/-- The annotation stands in front of the function at an index: on the line of its header, or on a line above it
with nothing but quiet lines up to the header. -/
inductive Annotated (lines : List Line) (index : Nat) : Prop
  | beside {line intro rest : Line} (stands : lines[index]? = some line) (heads : Heads intro rest line)
    (mention : tag <:+: intro) : Annotated lines index
  | above {mark : Nat} (lt : mark < index) (marked : Marked lines mark) (quiet : QuietBetween lines mark index) :
    Annotated lines index

/-- The mention of the annotation on a line is not about the function at an index: it is part of what follows the
word in the header, or there is a line on the way that is not quiet. -/
inductive Foreign (lines : List Line) (index : Nat) : Nat → Prop
  | behind {line intro rest : Line} (stands : lines[index]? = some line) (heads : Heads intro rest line)
    (mention : tag <:+: rest) (never : ∀ intro rest, Heads intro rest line → ¬tag <:+: intro) :
    Foreign lines index index
  | apart {mark between : Nat} {line : Line} (le : mark ≤ between) (lt : between < index)
    (stands : lines[between]? = some line) (loud : ¬Quiet line) : Foreign lines index mark

variable {lines : List Line} {mark index : Nat} {composable : Composable}

/-! ### The functions that are found -/

/-- The function that a mention reaches is the first one within reach of it. -/
theorem reaches_iff : Reaches lines mark index ↔
    Marked lines mark ∧ StandsFirst functionHeader lines mark (annotationReach + 1) index := by
  constructor
  · intro h
    exact ⟨h.marked, h.le, Nat.lt_succ_of_le h.near, h.headed, h.first⟩
  · rintro ⟨hmarked, hfirst⟩
    exact ⟨hmarked, hfirst.le, Nat.le_of_lt_succ hfirst.near, hfirst.stands, hfirst.first⟩

theorem reaches_of_annotated? (hmarked : Marked lines mark) (h : annotated? lines mark = some composable) :
    Reaches lines mark composable.index := by
  obtain ⟨index, place, hfirst, rfl⟩ := Source.exists_of_findSome?_window Composable.mk h
  exact reaches_iff.2 ⟨hmarked, hfirst⟩

theorem exists_annotated? (h : Reaches lines mark index) :
    ∃ composable, annotated? lines mark = some composable ∧ composable.index = index := by
  obtain ⟨place, hfound⟩ := Source.exists_findSome?_window Composable.mk (reaches_iff.1 h).2
  exact ⟨_, hfound, rfl⟩

/-- Going over the candidates keeps one for each index. -/
theorem exists_kept_iff (candidates found : List Composable) :
    (∃ composable ∈ candidates.foldl (fun found composable =>
      if found.any (·.index == composable.index) then found else found ++ [composable]) found,
        composable.index = index) ↔
      (∃ composable ∈ found, composable.index = index) ∨
        ∃ composable ∈ candidates, composable.index = index := by
  induction candidates generalizing found with
  | nil => simp
  | cons candidate candidates ih =>
    rw [List.foldl_cons, ih, List.exists_mem_cons_iff, ← or_assoc]
    refine or_congr_left ?_
    split
    · next hknown =>
      obtain ⟨known, hmem, heq⟩ := List.any_eq_true.1 hknown
      exact ⟨.inl, fun h => h.elim id fun h => ⟨known, hmem, (beq_iff_eq.1 heq).trans h⟩⟩
    · simp only [List.mem_append, List.mem_singleton, or_and_right, exists_or, exists_eq_left]

theorem mem_marks_iff : mark ∈ (lines.zipIdx.filterMap fun (line, index) =>
    if Text.contains tag line then some index else none) ↔ Marked lines mark := by
  rw [List.mem_filterMap]
  constructor
  · rintro ⟨⟨line, index⟩, hline, hmark⟩
    dsimp only at hmark
    split at hmark
    · next hcontains =>
      obtain rfl := Option.some.inj hmark
      exact ⟨line, List.mem_zipIdx_iff_getElem?.1 hline, Text.contains_iff.1 hcontains⟩
    · cases hmark
  · rintro ⟨line, hline, hmention⟩
    refine ⟨(line, mark), List.mem_zipIdx_iff_getElem?.2 hline, ?_⟩
    exact if_pos (Text.contains_iff.2 hmention)

/-- The functions that are found are those that some mention of the annotation reaches. -/
theorem exists_composable_iff :
    (∃ composable ∈ composables lines, composable.index = index) ↔ ∃ mark, Reaches lines mark index := by
  rw [composables, exists_kept_iff]
  constructor
  · rintro (⟨composable, hmem, -⟩ | ⟨composable, hmem, rfl⟩)
    · exact absurd hmem List.not_mem_nil
    · obtain ⟨mark, hmark, hannotated⟩ := List.mem_filterMap.1 hmem
      exact ⟨mark, reaches_of_annotated? (mem_marks_iff.1 hmark) hannotated⟩
  · rintro ⟨mark, hreaches⟩
    obtain ⟨composable, hannotated, hindex⟩ := exists_annotated? hreaches
    exact .inr ⟨composable, List.mem_filterMap.2 ⟨mark, mem_marks_iff.2 hreaches.marked, hannotated⟩, hindex⟩

/-! ### The functions that are annotated -/

/-- In the header of a function the annotation is mentioned on one side of the word. -/
theorem mention_of_heads {line intro rest : Line} (h : Heads intro rest line) (hmention : tag <:+: line) :
    tag <:+: intro ∨ tag <:+: rest := by
  have hline : line = intro ++ 'f' :: ([] ++ 'u' :: ([] ++ 'n' :: rest)) := by
    rw [h.line_eq, List.append_assoc]
    rfl
  have hempty : ¬tag <:+: [] := by decide
  rw [hline, Text.infix_append_cons_iff (by decide), Text.infix_append_cons_iff (by decide),
    Text.infix_append_cons_iff (by decide)] at hmention
  simpa only [hempty, false_or] using hmention

/-- A function is not annotated exactly if every mention of the annotation up to its header is about something
else. -/
theorem not_annotated_iff (hheaded : Headed lines index) :
    ¬Annotated lines index ↔ ∀ mark ≤ index, Marked lines mark → Foreign lines index mark := by
  obtain ⟨line, hline, hheader⟩ := hheaded
  obtain ⟨intro, rest, hheads⟩ := Source.exists_heads hheader
  constructor
  · intro hnot mark hle hmarked
    rcases Nat.lt_or_eq_of_le hle with hlt | rfl
    · have hloud : ¬QuietBetween lines mark index := fun hquiet => hnot (.above hlt hmarked hquiet)
      simp only [QuietBetween, not_forall] at hloud
      obtain ⟨between, hbelow, hbefore, other, hother, hloud⟩ := hloud
      exact .apart hbelow hbefore hother hloud
    · obtain ⟨same, hsame, hmention⟩ := hmarked
      obtain rfl := Option.some.inj (hline.symm.trans hsame)
      have hnever : ∀ intro rest, Heads intro rest line → ¬tag <:+: intro :=
        fun intro rest hheads hmention => hnot (.beside hline hheads hmention)
      exact .behind hline hheads
        ((mention_of_heads hheads hmention).resolve_left (hnever intro rest hheads)) hnever
  · rintro hforeign (⟨hstands, hheads, hmention⟩ | ⟨hlt, hmarked, hquiet⟩)
    · have hmarked : Marked lines index := by
        refine ⟨_, hstands, ?_⟩
        rw [hheads.line_eq, List.append_assoc]
        exact List.infix_append_of_infix_left hmention
      cases hforeign index (Nat.le_refl index) hmarked with
      | behind hsame _ _ hnever =>
        obtain rfl := Option.some.inj (hstands.symm.trans hsame)
        exact hnever _ _ hheads hmention
      | apart hle hlt => exact absurd hlt (Nat.not_lt.2 hle)
    · cases hforeign _ hlt.le hmarked with
      | behind => exact absurd hlt (Nat.lt_irrefl _)
      | apart hle hbefore hstands hloud => exact hloud (hquiet _ hle hbefore _ hstands)

/-- The functions that are taken for composable ones are those within reach of a mention of the annotation, and
such a function is not annotated exactly if every mention is part of its own signature or is parted from it by a
line of another declaration. -/
theorem composable_not_annotated_iff (lines : List Line) (index : Nat) :
    ((∃ composable ∈ composables lines, composable.index = index) ↔ ∃ mark, Reaches lines mark index) ∧
    ((∃ composable ∈ composables lines, composable.index = index) ∧ ¬Annotated lines index ↔
      (∃ mark, Reaches lines mark index) ∧ ∀ mark ≤ index, Marked lines mark → Foreign lines index mark) := by
  refine ⟨exists_composable_iff, ?_⟩
  rw [exists_composable_iff]
  exact and_congr_right fun ⟨_, hreaches⟩ => not_annotated_iff hreaches.headed

/-- A function below a property of a composable type. -/
def belowProperty : List Line :=
  ["val content: @Composable () -> Unit = \x7b\x7d".toList, "fun load() \x7b".toList, "\x7d".toList]

theorem composable_not_annotated_iff_property :
    (∃ composable ∈ composables belowProperty, composable.index = 1) ∧ ¬Annotated belowProperty 1 := by
  have hproperty : ¬Headed belowProperty 0 := by
    rintro ⟨line, hline, hheaded⟩
    cases hline
    exact absurd hheaded (by decide +kernel)
  refine (composable_not_annotated_iff belowProperty 1).2.2 ⟨⟨0, ?_⟩, fun mark hle hmarked => ?_⟩
  · refine ⟨⟨_, rfl, by decide +kernel⟩, by decide, by decide, ⟨_, rfl, by decide +kernel⟩, ?_⟩
    intro between hle hlt
    obtain rfl : between = 0 := by omega
    exact hproperty
  · obtain rfl | rfl : mark = 0 ∨ mark = 1 := by omega
    · exact .apart (Nat.le_refl 0) (by decide) rfl (by decide +kernel)
    · obtain ⟨line, hline, hmention⟩ := hmarked
      cases hline
      exact absurd hmention (by decide +kernel)

end KotlinAudit.Rule.Compose
