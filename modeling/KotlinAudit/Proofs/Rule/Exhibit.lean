import KotlinAudit.Proofs.Text.Lines
import KotlinAudit.Rule.Security

/-! What findings show of the source. Every rule has a fixed way to show the line that it reports: as it
is, with quoted texts cut down, together with the lines below it, or not at all. -/
namespace KotlinAudit.Rule

open Text (Line)

/-- The line of a number, the first line being number one. -/
def lineOf (lines : List Line) (number : Nat) : Line := lines[number - 1]?.getD []

/-- How a rule shows the line that it reports. -/
inductive Exhibit
  | nothing
  /-- The line without its surrounding white space. -/
  | line
  /-- The line with its quoted texts cut down. -/
  | redacted
  /-- So many lines from the reported one on. -/
  | excerpt (count : Nat)
deriving DecidableEq, Repr

namespace Exhibit

/-- What is shown of the line of a number. -/
def text (lines : List Line) (number : Nat) : Exhibit → List Char
  | nothing => []
  | line => Text.trim (lineOf lines number)
  | redacted => Security.redact (Text.trim (lineOf lines number))
  | excerpt count => Text.excerpt lines number count

/-- Where a text stands that can be read in what is shown. -/
def Reveals (lines : List Line) (number : Nat) (literal : List Char) : Exhibit → Prop
  | nothing => False
  | line => literal <:+: Text.trim (lineOf lines number)
  | redacted => literal <:+: Security.redact (Text.trim (lineOf lines number))
  | excerpt count => ∃ other, number ≤ other ∧ other < number + count ∧ literal <:+: lineOf lines other

theorem mem_window_iff {lines : List Line} {start count : Nat} {line : Line} :
    line ∈ (lines.take (start + count)).drop start ↔
      ∃ index, start ≤ index ∧ index < start + count ∧ lines[index]? = some line := by
  rw [List.mem_iff_getElem?]
  simp only [List.getElem?_drop, List.getElem?_take]
  constructor
  · rintro ⟨offset, h⟩
    split at h
    · exact ⟨start + offset, Nat.le_add_right _ _, by assumption, h⟩
    · cases h
  · rintro ⟨index, hstart, hstop, h⟩
    refine ⟨index - start, ?_⟩
    rw [Nat.add_sub_cancel' hstart, if_pos hstop, h]

/-- A text without line feeds can be read in an excerpt exactly if one of its lines holds it. -/
theorem infix_excerpt_iff {lines : List Line} {number count : Nat} (hnumber : 1 ≤ number)
    {literal : List Char} (hne : literal ≠ []) (hfeed : '\n' ∉ literal) :
    literal <:+: Text.excerpt lines number count ↔
      (excerpt count).Reveals lines number literal := by
  obtain ⟨start, rfl⟩ := Nat.exists_eq_add_of_le' hnumber
  have hexcerpt : Text.excerpt lines ((start + 1 : Nat) : Int) count =
      Text.join ['\n'] ((lines.take (start + count)).drop start) := by
    have hstart : (((start + 1 : Nat) : Int) - 1).toNat = start := by omega
    have hstop : ((start : Int) + count).toNat = start + count := by omega
    rw [Text.excerpt]
    simp only [hstart, hstop, if_neg (show ¬ (start : Int) + count < 0 by omega)]
  rw [hexcerpt, Text.infix_join_iff hne hfeed]
  simp only [mem_window_iff, Reveals]
  constructor
  · rintro ⟨line, ⟨index, hstart, hstop, hline⟩, hin⟩
    refine ⟨index + 1, by omega, by omega, ?_⟩
    rwa [lineOf, Nat.add_sub_cancel, hline]
  · rintro ⟨other, hstart, hstop, hin⟩
    cases hline : lines[other - 1]? with
    | none =>
      rw [lineOf, hline] at hin
      exact absurd (List.infix_nil.1 hin) hne
    | some line =>
      rw [lineOf, hline] at hin
      exact ⟨line, ⟨other - 1, by omega, by omega, hline⟩, hin⟩

theorem infix_text_iff (exhibit : Exhibit) {lines : List Line} {number : Nat} (hnumber : 1 ≤ number)
    {literal : List Char} (hne : literal ≠ []) (hfeed : '\n' ∉ literal) :
    literal <:+: exhibit.text lines number ↔ exhibit.Reveals lines number literal := by
  cases exhibit with
  | nothing => exact ⟨fun h => hne (List.infix_nil.1 h), False.elim⟩
  | line => exact Iff.rfl
  | redacted => exact Iff.rfl
  | excerpt count => exact infix_excerpt_iff hnumber hne hfeed

end Exhibit

/-- The rules that show something else than the line that they report. -/
def exhibits : List (String × Exhibit) :=
  [("file-name", .nothing), ("missing-test", .nothing), ("test-file-naming", .nothing),
    ("hardcoded-secret", .redacted), ("use-case-surface", .excerpt 10),
    ("long-function", .excerpt 10), ("too-many-parameters", .excerpt 10),
    ("high-complexity", .excerpt 10), ("deep-nesting", .excerpt 10), ("large-class", .excerpt 20),
    ("swallowed-exception", .excerpt 5), ("generic-catch", .excerpt 5)]

def exhibitOf (rule : String) : Exhibit := (exhibits.lookup rule).getD .line

theorem eq_hardcodedSecret_of_redacted {rule : String} (h : exhibitOf rule = .redacted) :
    rule = "hardcoded-secret" := by
  unfold exhibitOf at h
  cases hlookup : exhibits.lookup rule with
  | none =>
    rw [hlookup] at h
    cases h
  | some exhibit =>
    rw [hlookup, Option.getD_some] at h
    obtain ⟨front, back, hsplit, -⟩ := List.lookup_eq_some_iff.1 hlookup
    have hmem : (rule, exhibit) ∈ exhibits := hsplit ▸ List.mem_append_right front List.mem_cons_self
    rw [h] at hmem
    simpa [exhibits] using hmem

/-- A draft reports a line of the source, the first one also if there is none, and shows of it what its
rule shows. -/
structure Faithful (lines : List Line) (draft : Draft) : Prop where
  positive : 1 ≤ draft.line
  within : draft.line ≤ max 1 lines.length
  snippet : draft.snippet.toList = (exhibitOf draft.rule).text lines draft.line

namespace Faithful

variable {lines : List Line} {line : Line} {index : Nat} {draft : Draft}

/-- A draft about a line that exists. -/
theorem of_lt (hindex : index < lines.length) (hnumber : draft.line = index + 1)
    (hsnippet : draft.snippet.toList = (exhibitOf draft.rule).text lines (index + 1)) :
    Faithful lines draft where
  positive := by omega
  within := by omega
  snippet := hnumber ▸ hsnippet

theorem of_line (hline : lines[index]? = some line) (hnumber : draft.line = index + 1)
    (hsnippet : draft.snippet = String.ofList (Text.trim line))
    (hexhibit : exhibitOf draft.rule = .line) : Faithful lines draft := by
  refine of_lt (List.getElem?_eq_some_iff.1 hline).1 hnumber ?_
  rw [hsnippet, hexhibit, String.toList_ofList, Exhibit.text, lineOf, Nat.add_sub_cancel, hline]
  rfl

theorem of_redacted (hline : lines[index]? = some line) (hnumber : draft.line = index + 1)
    (hsnippet : draft.snippet = String.ofList (Security.redact (Text.trim line)))
    (hexhibit : exhibitOf draft.rule = .redacted) : Faithful lines draft := by
  refine of_lt (List.getElem?_eq_some_iff.1 hline).1 hnumber ?_
  rw [hsnippet, hexhibit, String.toList_ofList, Exhibit.text, lineOf, Nat.add_sub_cancel, hline]
  rfl

theorem of_excerpt {count : Nat} (hindex : index < lines.length) (hnumber : draft.line = index + 1)
    (hsnippet : draft.snippet = String.ofList (Text.excerpt lines (index + 1) count))
    (hexhibit : exhibitOf draft.rule = .excerpt count) : Faithful lines draft := by
  refine of_lt hindex hnumber ?_
  rw [hsnippet, hexhibit, String.toList_ofList]
  rfl

/-- A draft about the file as a whole. -/
theorem of_nothing (hnumber : draft.line = 1) (hsnippet : draft.snippet = "")
    (hexhibit : exhibitOf draft.rule = .nothing) : Faithful lines draft where
  positive := by omega
  within := by omega
  snippet := by
    rw [hsnippet, hexhibit]
    rfl

end Faithful

end KotlinAudit.Rule
