import KotlinAudit.Proofs.Pattern.Occurrence
import KotlinAudit.Source.Declaration
import KotlinAudit.Source.Reach
import Mathlib.Data.List.Basic

/-! Scans stay within the source: the block of a declaration ends on a line that exists, so every line
between the two exists as well. What is declared is found once at its header, has a name that is a word, and
runs from its first line to a later one or to the same. In front of the word that tells what is declared there are
annotations and modifiers, and behind it what the declaration is called and what it takes. -/
namespace KotlinAudit.Source

open Text (Line)

theorem closingLine?_lt {depth : Int} {index stop : Nat} {lines : List Line}
    (h : closingLine? depth index lines = some stop) : index ≤ stop ∧ stop < index + lines.length := by
  induction lines generalizing depth index with
  | nil => cases h
  | cons line rest ih =>
    rw [closingLine?] at h
    rw [List.length_cons]
    split at h
    · cases h
      omega
    · have := ih h
      omega

/-- A header that goes on to `index` of `count` lines has its block within them. -/
theorem blockEndFrom_lt {count start index : Nat} {lines : List Line} (hstart : start ≤ index)
    (hcount : index + lines.length = count) (h : start < count) :
    start ≤ blockEndFrom count start index lines ∧ blockEndFrom count start index lines < count := by
  induction lines generalizing index with
  | nil => exact ⟨Nat.le_refl start, h⟩
  | cons line rest ih =>
    rw [List.length_cons] at hcount
    rw [blockEndFrom]
    split
    · split
      · omega
      split
      · omega
      · exact ih (by omega) (by omega)
    · cases hstop : closingLine? 0 index (line :: rest) with
      | none =>
        rw [Option.getD_none]
        omega
      | some stop =>
        have hbounds := closingLine?_lt hstop
        rw [List.length_cons] at hbounds
        rw [Option.getD_some]
        omega

theorem blockEnd_lt {lines : List Line} {start : Nat} (h : start < lines.length) :
    start ≤ blockEnd lines start ∧ blockEnd lines start < lines.length :=
  blockEndFrom_lt (Nat.le_refl start) (by rw [List.length_drop]; omega) h

theorem mem_blockBody_iff {lines : List Line} {start index : Nat} {line : Line} :
    (index, line) ∈ blockBody lines start ↔
      start < index ∧ index ≤ blockEnd lines start ∧ lines[index]? = some line := by
  simp only [blockBody, List.mem_filter, List.mem_map, Bool.and_eq_true, decide_eq_true_eq,
    Prod.exists, Prod.mk.injEq, List.mem_zipIdx_iff_getElem?]
  constructor
  · rintro ⟨⟨other, number, hline, rfl, rfl⟩, hstart, hstop⟩
    exact ⟨hstart, hstop, hline⟩
  · rintro ⟨hstart, hstop, hline⟩
    exact ⟨⟨line, index, hline, rfl, rfl⟩, hstart, hstop⟩

/-! ### Scans that start at a line -/

/-- A scan may start below the last line; it then finds nothing. -/
theorem reach?_natCast (lines : List Line) (start : Nat) : reach? lines start =
    some ((lines.zipIdx.map fun (line, index) => (Int.ofNat index, line)).drop start) := rfl

theorem getElem?_of_mem_reach? {lines : List Line} {start : Nat} {reachable : List (Int × Line)}
    (h : reach? lines start = some reachable) {index : Int} {line : Line}
    (hmem : (index, line) ∈ reachable) : ∃ number : Nat, index = number ∧ lines[number]? = some line := by
  rw [reach?_natCast] at h
  cases h
  obtain ⟨⟨found, number⟩, hfound, hpair⟩ := List.mem_map.1 (List.mem_of_mem_drop hmem)
  obtain ⟨rfl, rfl⟩ := Prod.mk.inj hpair
  exact ⟨number, rfl, List.mem_zipIdx_iff_getElem?.1 hfound⟩

theorem isSome_textFrom? (lines : List Line) (start column : Nat) :
    (textFrom? lines start column).isSome = true := by
  rw [textFrom?, reach?_natCast]
  rfl

theorem isSome_parenthesized? (lines : List Line) (start column : Nat) :
    (parenthesized? lines start column).isSome = true := by
  rw [parenthesized?, Option.isSome_map]
  exact isSome_textFrom? lines start column

theorem isSome_catchStatements? (lines : List Line) (index column : Nat) :
    (catchStatements? lines index column).isSome = true := by
  rw [catchStatements?, Option.isSome_map]
  exact isSome_textFrom? lines index column

/-! ### Declarations -/

section Declarations

open Pattern

/-- A name that headers declare. -/
structure IsName (name : List Char) : Prop where
  ne : name ≠ []
  word : ∀ c ∈ name, Text.isWord c = true

theorem isName_of_language {name : List Char} (h : word.language name) : IsName name := by
  obtain ⟨hne, hword⟩ := language_oneOrMore_iff.1 h
  exact ⟨hne, hword⟩

variable {header : Pattern} {lines : List Line} {declaration : Declaration}

theorem isName_of_mem_declarations (hforward : header.isForward = true)
    (hcaptures : header.captures nameGroup = true)
    (hlanguage : ∀ name, header.groupLanguage nameGroup name → word.language name)
    (h : declaration ∈ declarations header lines) : IsName declaration.name.toList := by
  obtain ⟨⟨line, index⟩, -, hfound⟩ := List.mem_filterMap.1 h
  obtain ⟨found, hmatch, rfl⟩ := Option.map_eq_some_iff.1 hfound
  have hname := groupLanguage_of_matchStart? hforward hmatch hcaptures
  rw [String.toList_ofList]
  exact isName_of_language (hlanguage _ hname)

theorem isName_of_function (h : declaration ∈ declarations functionHeader lines) :
    IsName declaration.name.toList := by
  refine isName_of_mem_declarations rfl rfl (fun name hname => ?_) h
  simpa [functionHeader, annotationList, modifierList, typeParameters, receiver, groupLanguage, all, start,
    blanks, many, Pattern.optional, oneOrMore, blank, word, wordChar, only, noneOf, Pattern.text, chars]
    using hname

theorem isName_of_class (h : declaration ∈ declarations classHeader lines) :
    IsName declaration.name.toList := by
  refine isName_of_mem_declarations rfl rfl (fun name hname => ?_) h
  simpa [classHeader, annotationList, modifierList, groupLanguage, all, oneOf, start, blanks, many,
    Pattern.optional, oneOrMore, blank, word, wordChar, only, noneOf, Pattern.text, texts, chars] using hname

/-- A declaration whose header stands at a line is found there once. -/
theorem exists_declaration {start : Nat} {line : Line} (hline : lines[start]? = some line)
    (hheader : header.matchesStart line = true) :
    ∃ declaration ∈ declarations header lines, declaration.first = start ∧
      declaration.last = blockEnd lines start ∧
      ∀ other ∈ declarations header lines, other.first = start → other = declaration := by
  obtain ⟨found, hfound⟩ := Option.isSome_iff_exists.1 hheader
  refine ⟨⟨String.ofList (found.group nameGroup), start, blockEnd lines start⟩,
    List.mem_filterMap.2 ⟨(line, start), List.mem_zipIdx_iff_getElem?.2 hline,
      Option.map_eq_some_iff.2 ⟨found, hfound, rfl⟩⟩, rfl, rfl, fun other hother hfirst => ?_⟩
  obtain ⟨⟨text, index⟩, htext, hother⟩ := List.mem_filterMap.1 hother
  obtain ⟨next, hnext, rfl⟩ := Option.map_eq_some_iff.1 hother
  obtain rfl : index = start := hfirst
  obtain rfl := Option.some.inj (hline.symm.trans (List.mem_zipIdx_iff_getElem?.1 htext))
  obtain rfl := Option.some.inj (hfound.symm.trans hnext)
  rfl

/-- The header stands on the line with an index. -/
def Stands (header : Pattern) (lines : List Line) (index : Nat) : Prop :=
  ∃ line, lines[index]? = some line ∧ header.matchesStart line = true

/-- Of some lines, counted from one on, the one with an index is the first on which the header stands. -/
structure StandsFirst (header : Pattern) (lines : List Line) (start count index : Nat) : Prop where
  le : start ≤ index
  near : index < start + count
  stands : Stands header lines index
  first : ∀ between, start ≤ between → between < index → ¬Stands header lines between

theorem StandsFirst.unique {start count index other : Nat} (h : StandsFirst header lines start count index)
    (hother : StandsFirst header lines start count other) : index = other := by
  rcases Nat.lt_trichotomy index other with hlt | heq | hlt
  · exact absurd h.stands (hother.first index h.le hlt)
  · exact heq
  · exact absurd hother.stands (h.first other hother.le hlt)

/-- The lines within reach of a line, with their indexes. -/
theorem getElem?_window {start count place : Nat} {line : Line} {index : Nat} :
    ((lines.zipIdx.drop start).take count)[place]? = some (line, index) ↔
      place < count ∧ index = start + place ∧ lines[index]? = some line := by
  rw [List.getElem?_take, List.getElem?_drop, List.getElem?_zipIdx, Nat.zero_add]
  constructor
  · intro h
    split at h
    · next hlt =>
      obtain ⟨_, hline, heq⟩ := Option.map_eq_some_iff.1 h
      obtain ⟨rfl, rfl⟩ := Prod.mk.inj heq
      exact ⟨hlt, rfl, hline⟩
    · cases h
  · rintro ⟨hlt, rfl, hline⟩
    rw [if_pos hlt, hline]
    rfl

section Window

variable {α : Type} {start count index : Nat} {found : α}

/-- What a look at the lines within reach comes to, it makes of the first header there. -/
theorem exists_of_findSome?_window (make : Nat → Cursor → α)
    (h : ((lines.zipIdx.drop start).take count).findSome? (fun item =>
      (header.matchStart? item.1).map (make item.2)) = some found) :
    ∃ index place, StandsFirst header lines start count index ∧ found = make index place := by
  obtain ⟨front, ⟨line, index⟩, rest, hwindow, hfound, hnone⟩ := List.findSome?_eq_some_iff.1 h
  obtain ⟨place, hplace, rfl⟩ := Option.map_eq_some_iff.1 hfound
  have hin : (front ++ (line, index) :: rest)[front.length]? = some (line, index) := by simp
  rw [← hwindow, getElem?_window] at hin
  obtain ⟨hlt, hindex, hline⟩ := hin
  refine ⟨index, place, ⟨by omega, by omega, ⟨line, hline, Option.isSome_of_eq_some hplace⟩, ?_⟩, rfl⟩
  rintro between hle hbetween ⟨other, hother, hstands⟩
  have hin : (front ++ (line, index) :: rest)[between - start]? = some (other, between) := by
    rw [← hwindow, getElem?_window]
    exact ⟨by omega, by omega, hother⟩
  rw [List.getElem?_append_left (by omega)] at hin
  have hmissing := Option.map_eq_none_iff.1 (hnone _ (List.mem_of_getElem? hin))
  rw [Pattern.matchesStart, hmissing] at hstands
  cases hstands

/-- The look at the lines within reach comes to the first header there. -/
theorem exists_findSome?_window (make : Nat → Cursor → α) (h : StandsFirst header lines start count index) :
    ∃ place, ((lines.zipIdx.drop start).take count).findSome? (fun item =>
      (header.matchStart? item.1).map (make item.2)) = some (make index place) := by
  cases hfound : ((lines.zipIdx.drop start).take count).findSome? (fun item =>
      (header.matchStart? item.1).map (make item.2)) with
  | some found =>
    obtain ⟨other, place, hother, rfl⟩ := exists_of_findSome?_window make hfound
    exact ⟨place, by rw [h.unique hother]⟩
  | none =>
    obtain ⟨line, hline, hstands⟩ := h.stands
    have hnear : index - start < count := by
      have := h.near
      have := h.le
      omega
    have hin := getElem?_window.2 ⟨hnear, (Nat.add_sub_of_le h.le).symm, hline⟩
    have hmissing := Option.map_eq_none_iff.1
      (List.findSome?_eq_none_iff.1 hfound _ (List.mem_of_getElem? hin))
    rw [Pattern.matchesStart, hmissing] at hstands
    cases hstands

end Window

theorem exists_lineCount (h : declaration ∈ declarations header lines) :
    ∃ count : Nat, declaration.lineCount = count := by
  obtain ⟨⟨line, index⟩, hline, hfound⟩ := List.mem_filterMap.1 h
  obtain ⟨found, -, rfl⟩ := Option.map_eq_some_iff.1 hfound
  have hlt := (List.getElem?_eq_some_iff.1 (List.mem_zipIdx_iff_getElem?.1 hline)).1
  have hle : index ≤ blockEnd lines index := (blockEnd_lt hlt).1
  refine ⟨blockEnd lines index - index + 1, ?_⟩
  change (blockEnd lines index : Int) - index + 1 = _
  omega

/-- A declaration stays within the lines. -/
theorem lineCount_le (h : declaration ∈ declarations header lines) : declaration.lineCount ≤ lines.length := by
  obtain ⟨⟨line, index⟩, hline, hfound⟩ := List.mem_filterMap.1 h
  obtain ⟨found, -, rfl⟩ := Option.map_eq_some_iff.1 hfound
  have hlt := (List.getElem?_eq_some_iff.1 (List.mem_zipIdx_iff_getElem?.1 hline)).1
  have hlast : blockEnd lines index < lines.length := (blockEnd_lt hlt).2
  change (blockEnd lines index : Int) - index + 1 ≤ lines.length
  omega

end Declarations

/-! ### The lines on which a declaration starts -/

section Patterns
open Pattern

/-- What may stand in front of the word that tells what is declared. -/
def prelude : Pattern := all [blanks, annotationList, modifierList]

/-- The start of a declaration, up to the word that tells what is declared. -/
def declarationStart (kinds : List String) : Pattern := all [start, prelude, texts kinds, wordEdge]

/-- What follows the word in the header of a function, up to the opening parenthesis. -/
def signature : Pattern :=
  all [oneOrMore blank, typeParameters, receiver, capture nameGroup word, blanks, only '(']

end Patterns

/-- The two sides of the word in the header of a function. -/
structure Heads (intro rest line : Line) : Prop where
  line_eq : line = intro ++ "fun".toList ++ rest
  intro_spelled : prelude.spells intro
  rest_spelled : ∃ front more, rest = front ++ more ∧ signature.spells front

variable {line intro rest : Line}

theorem exists_heads (h : functionHeader.matchesStart line = true) : ∃ intro rest, Heads intro rest line := by
  obtain ⟨passed, more, rfl, hspells⟩ :=
    Pattern.exists_spelled_of_matchesStart (by decide : functionHeader.isForward = true) h
  obtain ⟨_, _, rfl, rfl, blanks, _, rfl, hblanks, annotations, _, rfl, hannotations, modifiers, _, rfl,
    hmodifiers, word, front, rfl, hword, hsignature⟩ := hspells
  obtain rfl := Pattern.spells_text_iff.1 hword
  refine ⟨blanks ++ (annotations ++ modifiers), front ++ more, ?_, ?_, front, more, rfl, hsignature⟩
  · simp only [List.nil_append, List.append_assoc]
  · exact ⟨blanks, _, rfl, hblanks, annotations, modifiers, rfl, hannotations, hmodifiers⟩

/-! ### How a declaration starts -/

/-- A text that is empty or starts with an accepted character. -/
def LedBy (starts : Char → Bool) (text : List Char) : Prop := text.head?.all starts = true

instance (starts : Char → Bool) (text : List Char) : Decidable (LedBy starts text) :=
  inferInstanceAs (Decidable (text.head?.all starts = true))

section Led

variable {starts : Char → Bool} {text other : List Char}

theorem LedBy.append (h : LedBy starts text) (hother : LedBy starts other) : LedBy starts (text ++ other) := by
  cases text with
  | nil => exact hother
  | cons c text => exact h

theorem LedBy.flatten {pieces : List (List Char)} (h : ∀ piece ∈ pieces, LedBy starts piece) :
    LedBy starts pieces.flatten := by
  induction pieces with
  | nil => rfl
  | cons piece pieces ih =>
    obtain ⟨hpiece, hpieces⟩ := List.forall_mem_cons.1 h
    exact hpiece.append (ih hpieces)

/-- The signs with which a declaration starts. -/
def isInitial (c : Char) : Bool := c == '@' || ('a' ≤ c && c ≤ 'z')

theorem isBlank_of_isInitial {c : Char} (h : isInitial c = true) : Text.isBlank c = false := by
  rcases Bool.or_eq_true_iff.1 h with h | h
  · rw [beq_iff_eq.1 h]
    decide
  · obtain ⟨hfirst, hlast⟩ := Bool.and_eq_true_iff.1 h
    have hfirst : 97 ≤ c.toNat := of_decide_eq_true hfirst
    have hlast : c.toNat ≤ 122 := of_decide_eq_true hlast
    simp only [Text.isBlank, Text.isSpace, Bool.or_eq_false_iff, Bool.and_eq_false_iff, decide_eq_false_iff_not,
      beq_eq_false_iff_ne]
    omega

theorem ledBy_annotationList (h : annotationList.spells text) : LedBy isInitial text := by
  obtain ⟨pieces, rfl, -, -, hpieces⟩ := h
  refine .flatten fun piece hpiece => ?_
  obtain ⟨_, back, rfl, ⟨c, rfl, hc⟩, -⟩ := hpieces piece hpiece
  exact Bool.or_eq_true_iff.2 (.inl hc)

theorem ledBy_modifierList (h : modifierList.spells text) : LedBy isInitial text := by
  obtain ⟨pieces, rfl, -, -, hpieces⟩ := h
  refine .flatten fun piece hpiece => ?_
  obtain ⟨_, back, rfl, ⟨letters, rfl, hleast, -, hletters⟩, -⟩ := hpieces piece hpiece
  obtain ⟨first, letters, rfl⟩ := List.exists_cons_of_length_pos hleast
  obtain ⟨c, rfl, hc⟩ := hletters _ List.mem_cons_self
  exact Bool.or_eq_true_iff.2 (.inr hc)

/-- Behind blanks the text starts like a declaration, with an annotation or with a word in small letters. -/
def Initial (text : List Char) : Prop :=
  ∃ gap c rest, text = gap ++ c :: rest ∧ (∀ d ∈ gap, Text.isBlank d = true) ∧ isInitial c = true

theorem initial_of_declarationStart {kinds : List String} (hforward : (declarationStart kinds).isForward = true)
    (hkinds : kinds ≠ []) (hinitial : ∀ kind ∈ kinds, kind.toList ≠ [] ∧ LedBy isInitial kind.toList)
    (h : (declarationStart kinds).matchesStart line = true) : Initial line := by
  obtain ⟨passed, more, rfl, hspells⟩ := Pattern.exists_spelled_of_matchesStart hforward h
  obtain ⟨_, _, rfl, rfl, _, _, rfl, ⟨gap, _, rfl, hgap, annotations, modifiers, rfl, hannotations, hmodifiers⟩,
    word, _, rfl, hword, rfl⟩ := hspells
  obtain ⟨kind, hkind, rfl⟩ := (Pattern.spells_texts_iff hkinds).1 hword
  obtain ⟨hne, hled⟩ := hinitial kind hkind
  have hstart : LedBy isInitial (annotations ++ (modifiers ++ kind.toList)) :=
    (ledBy_annotationList hannotations).append ((ledBy_modifierList hmodifiers).append hled)
  obtain ⟨c, rest, hrest⟩ := List.exists_cons_of_ne_nil
    (List.append_ne_nil_of_right_ne_nil annotations (List.append_ne_nil_of_right_ne_nil modifiers hne))
  rw [hrest] at hstart
  refine ⟨gap, c, rest ++ more, ?_, Pattern.spells_many_iff.1 hgap, hstart⟩
  rw [← List.cons_append, ← hrest]
  simp only [List.nil_append, List.append_nil, List.append_assoc]

end Led

end KotlinAudit.Source
