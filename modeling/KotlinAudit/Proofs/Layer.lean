import KotlinAudit.Proofs.Path
import KotlinAudit.Proofs.Text.Lines
import KotlinAudit.SourceFile

/-! Layers and the directories that tell them. A relative path is cut at its slashes and backslashes: the last
piece is the name of the file, and nothing if the path ends in a slash, and the pieces before it are the names
of the directories. The layer of a path is the first one that has a directory with one of its names, spelled as
it is and in full. -/
namespace KotlinAudit

namespace Text

variable {c : Char} {word text : List Char}

theorem free_iff_notMem : Free (· == c) text ↔ c ∉ text := by
  simp only [Free, beq_eq_false_iff_ne]
  exact ⟨fun h hc => h c hc rfl, fun h d hd => ne_of_mem_of_not_mem hd h⟩

/-- What begins with a character that a text does not hold begins behind the text. -/
theorem cons_infix_append_iff {needle front rest : List Char} (h : c ∉ front) :
    c :: needle <:+: front ++ rest ↔ c :: needle <:+: rest := by
  induction front with
  | nil => rfl
  | cons d front ih =>
    obtain ⟨hd, hfront⟩ := not_or.1 (mt List.mem_cons.2 h)
    rw [List.cons_append, List.infix_cons_iff, List.cons_prefix_cons, ih hfront]
    exact or_iff_right fun hprefix => hd hprefix.1

/-- A word in front of a mark is all that stands in front of the first mark. -/
theorem prefix_mark_iff {front rest : List Char} (hword : c ∉ word) (hfront : c ∉ front) :
    word ++ [c] <+: front ++ c :: rest ↔ word = front := by
  constructor
  · rintro ⟨more, heq⟩
    rw [List.append_assoc, List.singleton_append] at heq
    exact (append_cons_inj hword hfront heq).1
  · rintro rfl
    exact ⟨rest, by rw [List.append_assoc, List.singleton_append]⟩

/-- Between two marks of a marked text stand its pieces but for the last one. -/
theorem marked_infix_iff (h : c ∉ word) (text : List Char) :
    c :: (word ++ [c]) <:+: c :: text ↔ word ∈ (splitAll (· == c) text).dropLast := by
  by_cases hfree : Free (· == c) text
  · -- a single mark is one too few
    rw [splitAll_of_free hfree, List.dropLast_singleton]
    refine iff_of_false (fun hinfix => ?_) List.not_mem_nil
    have hcount := hinfix.sublist.count_le c
    rw [List.count_cons_self, List.count_append, List.count_singleton_self, List.count_cons_self,
      List.count_eq_zero.2 (free_iff_notMem.1 hfree)] at hcount
    omega
  · obtain ⟨front, d, rest, htext, hfront, hd⟩ := Free.exists_mark hfree
    rw [beq_iff_eq.1 hd] at htext
    obtain ⟨piece, pieces, hrest⟩ := exists_splitAll_cons (· == c) rest
    have hbehind := marked_infix_iff h rest
    have hclear := free_iff_notMem.1 hfront
    rw [htext, splitAll_append hfront rest (beq_self_eq_true c), hrest, List.dropLast_cons_cons,
      List.mem_cons, ← hrest, ← hbehind, List.infix_cons_iff, List.cons_prefix_cons,
      prefix_mark_iff h hclear, cons_infix_append_iff hclear]
    simp only [true_and]
termination_by text.length
decreasing_by
  rw [htext, List.length_append, List.length_cons]
  omega

/-- Marks in front of a text add empty pieces only. -/
theorem mem_dropLast_splitAll_dropWhile (hword : word ≠ []) :
    word ∈ (splitAll (· == c) (text.dropWhile (· == c))).dropLast ↔
      word ∈ (splitAll (· == c) text).dropLast := by
  induction text with
  | nil => rfl
  | cons d rest ih =>
    by_cases hd : (d == c) = true
    · obtain ⟨piece, pieces, hrest⟩ := exists_splitAll_cons (· == c) rest
      rw [List.dropWhile_cons, if_pos hd, ih, splitAll, if_pos hd, hrest, List.dropLast_cons_cons,
        List.mem_cons]
      exact (or_iff_right hword).symm
    · rw [List.dropWhile_cons, if_neg hd]

end Text

/-- The first element with a property has it, and no element in front of it does. -/
theorem find?_eq_some_iff_idxOf {α : Type} [DecidableEq α] {holds : α → Bool} {list : List α} {a : α} :
    list.find? holds = some a ↔ a ∈ list ∧ holds a = true ∧
      ∀ other, list.idxOf other < list.idxOf a → holds other = false := by
  induction list with
  | nil => simp
  | cons first rest ih =>
    by_cases hfirst : holds first = true
    · rw [List.find?_cons_of_pos hfirst, Option.some.injEq]
      constructor
      · rintro rfl
        exact ⟨List.mem_cons_self, hfirst, fun other hother => by simp at hother⟩
      · rintro ⟨-, -, hbefore⟩
        by_contra hne
        have hnone := hbefore first (by simp [List.idxOf_cons_ne _ hne])
        rw [hfirst] at hnone
        cases hnone
    · rw [List.find?_cons_of_neg hfirst, ih, List.mem_cons]
      constructor
      · rintro ⟨hmem, ha, hbefore⟩
        have hne : first ≠ a := fun heq => hfirst (heq ▸ ha)
        refine ⟨.inr hmem, ha, fun other hother => ?_⟩
        by_cases heq : first = other
        · rw [← heq]
          exact Bool.eq_false_iff.2 hfirst
        · rw [List.idxOf_cons_ne _ heq, List.idxOf_cons_ne _ hne] at hother
          exact hbefore other (Nat.lt_of_succ_lt_succ hother)
      · rintro ⟨hmem, ha, hbefore⟩
        have hne : first ≠ a := fun heq => hfirst (heq ▸ ha)
        refine ⟨hmem.resolve_left (Ne.symm hne), ha, fun other hother => ?_⟩
        by_cases heq : first = other
        · rw [← heq]
          exact Bool.eq_false_iff.2 hfirst
        · refine hbefore other ?_
          rw [List.idxOf_cons_ne _ heq, List.idxOf_cons_ne _ hne]
          exact Nat.succ_lt_succ hother

namespace Layer

/-- Slashes and backslashes separate the names of a path. -/
def isSlash (c : Char) : Bool := c == '/' || c == '\\'

/-- The names on a path, the last one of which is the file's. -/
def namesOn (path : String) : List String := (Text.splitAll isSlash path.toList).map String.ofList

/-- The names of the directories on a path. -/
def directoriesOn (path : String) : List String := (namesOn path).dropLast

/-- What the directories of a layer are called. -/
inductive Calls : Layer → String → Prop
  | data : Calls .data "data"
  | domain : Calls .domain "domain"
  | ui : Calls .ui "ui"
  | presentation : Calls .ui "presentation"
  | di : Calls .dependencyInjection "di"
  | test : Calls .test "test"
  | androidTest : Calls .test "androidTest"

/-- When a layer has its turn, where a path is in directories of several ones. -/
def turn : Layer → Nat
  | data => 1
  | domain => 2
  | ui => 3
  | dependencyInjection => 4
  | test => 5

/-- Whether a directory on a path has a name of the layer. -/
def Owns (layer : Layer) (path : String) : Prop := ∃ name ∈ directoriesOn path, layer.Calls name

variable {layer : Layer} {path name : String}

theorem splitAll_normalized (text : List Char) :
    Text.splitAll (· == '/') (normalized text) = Text.splitAll isSlash text := by
  unfold normalized
  induction text with
  | nil => rfl
  | cons c rest ih =>
    have hslash : ((if c == '\\' then '/' else c) == '/') = isSlash c := by
      by_cases hc : c = '\\'
      · simp [isSlash, hc]
      · simp [isSlash, hc]
    rw [List.map_cons, Text.splitAll, Text.splitAll, hslash, ih]
    split
    · rfl
    · next h =>
      have hsame : (if c == '\\' then '/' else c) = c := if_neg fun hc => h (by simp [isSlash, hc])
      rw [hsame]

/-- A name between two slashes is that of a directory on the path. -/
theorem hasDirectory_anchored_iff (hname : name ≠ "") (hslash : '/' ∉ name.toList) :
    hasDirectory (anchored (normalized path.toList)) name = true ↔ name ∈ directoriesOn path := by
  have hword : name.toList ≠ [] := fun hnil => hname (String.toList_eq_nil_iff.1 hnil)
  rw [hasDirectory, anchored, Text.contains_iff, List.cons_append, Text.marked_infix_iff hslash _,
    Text.mem_dropLast_splitAll_dropWhile hword, splitAll_normalized, directoriesOn, namesOn,
    ← List.map_dropLast, List.mem_map]
  constructor
  · exact fun hmem => ⟨name.toList, hmem, String.ofList_toList⟩
  · rintro ⟨piece, hpiece, rfl⟩
    rwa [String.toList_ofList]

theorem mem_directories_iff : name ∈ layer.directories ↔ layer.Calls name := by
  constructor
  · intro h
    cases layer <;> simp only [directories, List.mem_cons, List.not_mem_nil, or_false] at h
    case data => exact h ▸ .data
    case domain => exact h ▸ .domain
    case ui => exact h.elim (fun hui => hui ▸ .ui) fun hother => hother ▸ .presentation
    case dependencyInjection => exact h ▸ .di
    case test => exact h.elim (fun htest => htest ▸ .test) fun hother => hother ▸ .androidTest
  · intro h
    cases h <;> decide

theorem Calls.spec (h : layer.Calls name) : name ≠ "" ∧ '/' ∉ name.toList := by
  cases h <;> decide

theorem any_hasDirectory_iff : layer.directories.any (hasDirectory (anchored (normalized path.toList))) = true ↔
    layer.Owns path := by
  rw [List.any_eq_true]
  refine exists_congr fun name => ?_
  rw [mem_directories_iff, and_comm]
  refine and_congr_left fun hcalls => ?_
  exact hasDirectory_anchored_iff hcalls.spec.1 hcalls.spec.2

instance (layer : Layer) (path : String) : Decidable (layer.Owns path) :=
  decidable_of_iff _ any_hasDirectory_iff

theorem mem_all (layer : Layer) : layer ∈ all := by
  cases layer <;> decide

theorem idxOf_lt_idxOf_iff (other layer : Layer) : all.idxOf other < all.idxOf layer ↔ other.turn < layer.turn := by
  cases other <;> cases layer <;> decide

/-- The layer of a path is the first one that owns a directory on it, and there is none if no layer does. Only
whole names of directories count: neither the name of the file nor a name that holds one of a layer's. -/
theorem detect_iff (path : String) :
    (∀ layer, detect path = some layer ↔
      layer.Owns path ∧ ∀ other : Layer, other.turn < layer.turn → ¬other.Owns path) ∧
    (detect path = none ↔ ∀ layer : Layer, ¬layer.Owns path) := by
  simp only [detect, find?_eq_some_iff_idxOf, List.find?_eq_none, mem_all, true_and, forall_const,
    any_hasDirectory_iff, Bool.eq_false_iff, Ne, and_self, idxOf_lt_idxOf_iff]

example : directoriesOn "data\\\\metadata/di/test" = ["data", "", "metadata", "di"] := by decide

end Layer
end KotlinAudit
