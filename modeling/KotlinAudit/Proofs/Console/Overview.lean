import KotlinAudit.Console.Overview
import KotlinAudit.Proofs.Baseline.Stored
import KotlinAudit.Proofs.Console.Layout
import KotlinAudit.Proofs.Decimal.Numeral
import KotlinAudit.Proofs.Outcome
import KotlinAudit.Proofs.Text.Scan

/-! What is shown after a run. Its numbers and the names of metrics hold nothing that a terminal could read as a
tag or an emoji, so that they are shown as they are, in tables with lines of the same width. -/
namespace KotlinAudit

namespace Console

variable {text other : List Char} {emoji : Bool}

/-- Characters that a terminal shows as they are, wherever they stand. -/
def Literal (text : List Char) : Prop := ∀ c ∈ text, c ∉ ['[', ':', joiner, emojiMark]

/-- The characters are gone through one by one. -/
instance : Decidable (Literal text) := List.decidableBAll (fun c => c ∉ ['[', ':', joiner, emojiMark]) text

theorem Literal.append (h : Literal text) (hother : Literal other) : Literal (text ++ other) :=
  List.forall_mem_append.2 ⟨h, hother⟩

theorem Literal.settled (h : Literal text) : Settled text := fun c hc => by
  have := h c hc
  simp only [List.mem_cons, not_or] at this
  exact ⟨this.2.2.1, this.2.2.2.1⟩

theorem Literal.bracket_notMem (h : Literal text) : '[' ∉ text := fun hc => h '[' hc (by decide)

theorem Literal.colon_notMem (h : Literal text) : ':' ∉ text := fun hc => h ':' hc (by decide)

/-- In a text without brackets there are no tags. -/
theorem Markup.piecesFrom_eq (h : '[' ∉ text) (before : List Char) (slashes : Nat) :
    piecesFrom before slashes text =
      if (text.reverse ++ (List.replicate slashes '\\' ++ before)).isEmpty then []
      else [.plain (text.reverse ++ (List.replicate slashes '\\' ++ before)).reverse] := by
  induction text generalizing before slashes with
  | nil =>
    rw [piecesFrom]
    rfl
  | cons c rest ih =>
    obtain ⟨hc, hrest⟩ := not_or.1 (List.mem_cons.not.1 h)
    rw [piecesFrom]
    split
    · rename_i hslash
      rw [ih hrest, List.reverse_cons, beq_iff_eq.1 hslash, List.replicate_succ]
      simp only [List.append_assoc, List.nil_append, List.cons_append]
    · rw [if_neg (by simpa using Ne.symm hc), ih hrest, List.reverse_cons]
      simp only [List.append_assoc, List.singleton_append, List.replicate_zero, List.nil_append]

theorem Emoji.replacedFrom_none (h : ':' ∉ text) : replacedFrom none text = text := by
  induction text with
  | nil => rfl
  | cons c rest ih =>
    obtain ⟨hc, hrest⟩ := not_or.1 (List.mem_cons.not.1 h)
    rw [replacedFrom, if_neg (by simpa using Ne.symm hc), ih hrest]

theorem replaceAll_of_bracket_notMem (h : '[' ∉ text) : Text.replaceAll '\\' ['['] ['['] text = text := by
  induction text with
  | nil => exact Text.replaceAll_nil
  | cons c rest ih =>
    have hrest := (List.mem_cons.not.1 h |> not_or.1).2
    rw [Text.replaceAll_cons, ih hrest]
    intro hbegins
    exact h (hbegins.subset (by decide))

/-- A text without brackets is shown as it is, but for the emoji that it names. -/
theorem Markup.shown_of_bracket_notMem (h : '[' ∉ text) (emoji : Bool) :
    shown emoji text = .ok (if emoji then Emoji.replaced text else text) := by
  rw [shown, piecesFrom_eq h, List.replicate_zero, List.nil_append, List.append_nil, List.reverse_reverse]
  split
  · rename_i hempty
    rw [List.isEmpty_iff, List.reverse_eq_nil_iff] at hempty
    subst hempty
    cases emoji <;> rfl
  · rw [shownFrom, replaceAll_of_bracket_notMem h]
    cases emoji <;> simp [shownFrom, bind, Except.bind, pure, Except.pure]

theorem Markup.shown_of_literal (h : Literal text) (emoji : Bool) : shown emoji text = .ok text := by
  rw [shown_of_bracket_notMem h.bracket_notMem, Emoji.replaced, Emoji.replacedFrom_none h.colon_notMem,
    ite_self]

end Console

namespace Decimal

open Console (Literal)

theorem literal_toString (n : Nat) : Literal (toString n).toList := fun c hc hmem => by
  have hmarks : ['[', ':', Console.joiner, Console.emojiMark].all (fun mark => !Text.isAsciiDigit mark) = true := by
    decide
  have hmark := List.all_eq_true.1 hmarks c hmem
  rw [isAsciiDigit_toString n c hc] at hmark
  cases hmark

theorem literal_toString_int (n : Int) : Literal (toString n).toList := by
  rw [toList_toString_int]
  refine Literal.append ?_ (literal_toString _)
  cases decide (n < 0) <;> decide

theorem literal_placed (places units : Nat) : Literal (placed places units).toList := by
  unfold placed
  dsimp only
  split
  · exact literal_toString _
  · have hzeros (count : Nat) : Literal (List.replicate count '0') := fun c hc => by
      rw [List.eq_of_mem_replicate hc]
      decide
    simp only [String.toList_append, String.toList_ofList]
    exact (((literal_toString _).append (by decide)).append (hzeros _)).append (literal_toString _)

/-- A number with fixed places is shown as it is. -/
theorem literal_toFixed (value : Binary64) (places : Nat) : Literal (value.toFixed places).toList := by
  unfold Binary64.toFixed
  split
  · decide
  · split <;> decide
  · rw [String.toList_append]
    refine Literal.append ?_ (literal_placed _ _)
    split <;> decide

end Decimal

namespace Console

/-- The columns of a comparison. -/
def comparisonColumns : List Column :=
  [⟨"Metric".toList, .left, .fold, true, 0, 1, 1⟩, ⟨"Status".toList, .left, .ellipsis, true, 0, 1, 1⟩,
    ⟨"Change".toList, .right, .ellipsis, true, 0, 1, 1⟩]

/-- The rows of a comparison. -/
def comparisonRows (comparison : Comparison) : List (List String) :=
  changeRows "improved" comparison.improved ++ changeRows "regressed" comparison.regressed ++
    [["new findings", "", toString comparison.newIssues.length],
      ["resolved findings", "", toString comparison.resolved.length]]

/-- Rows for the columns of a comparison whose cells are shown as they are. -/
def Verbatim (rows : List (List String)) : Prop :=
  ∀ row ∈ rows, row.length = comparisonColumns.length ∧ ∀ text ∈ row, Literal text.toList

theorem verbatim_changeRows {status : String} {changes : Changes} (hstatus : Literal status.toList)
    (hnames : ∀ change ∈ changes, Literal change.1.toList) : Verbatim (changeRows status changes) := by
  intro row hrow
  obtain ⟨change, hchange, rfl⟩ := List.mem_map.1 hrow
  have hamount : Literal (change.2.toFixed 1 ++ "%").toList := by
    rw [String.toList_append]
    exact (Decimal.literal_toFixed _ _).append (by decide)
  refine ⟨rfl, List.forall_mem_cons.2 ⟨hnames change (List.mem_mergeSort.1 hchange), ?_⟩⟩
  exact List.forall_mem_cons.2 ⟨hstatus, List.forall_mem_singleton.2 hamount⟩

theorem verbatim_countRows (resolved new : Nat) :
    Verbatim [["new findings", "", toString new], ["resolved findings", "", toString resolved]] := by
  have hrow (label : String) (h : Literal label.toList) (count : Nat) :
      ∀ text ∈ [label, "", toString count], Literal text.toList :=
    List.forall_mem_cons.2 ⟨h, List.forall_mem_cons.2 ⟨by decide,
      List.forall_mem_singleton.2 (Decimal.literal_toString count)⟩⟩
  exact List.forall_mem_cons.2 ⟨⟨rfl, hrow "new findings" (by decide) new⟩,
    List.forall_mem_singleton.2 ⟨rfl, hrow "resolved findings" (by decide) resolved⟩⟩

theorem verbatim_comparisonRows {comparison : Comparison}
    (h : ∀ change ∈ comparison.changes, Literal change.1.toList) : Verbatim (comparisonRows comparison) := by
  rw [Comparison.changes, List.forall_mem_append] at h
  exact List.forall_mem_append.2 ⟨List.forall_mem_append.2
    ⟨verbatim_changeRows (by decide) h.1, verbatim_changeRows (by decide) h.2⟩, verbatim_countRows _ _⟩

/-- The sign of the rule below the headings of a comparison. -/
def ruleSign (color : Bool) : Char := if color then '━' else '─'

/-- A comparison shows its rows as they are if the names of its metrics are literal. -/
theorem comparisonLines_eq {comparison : Comparison}
    (h : ∀ change ∈ comparison.changes, Literal change.1.toList) (color emoji : Bool) :
    comparisonLines comparison color emoji = .ok (tableLines comparisonColumns (some (ruleSign color))
      ((comparisonRows comparison).map fun row => row.map String.toList)) := by
  have hrows : (comparisonRows comparison).mapM (fun row => row.mapM fun text =>
      Markup.shown emoji text.toList) = .ok ((comparisonRows comparison).map fun row => row.map String.toList) :=
    Outcome.mapM_of_forall fun row hrow => Outcome.mapM_of_forall fun text htext =>
      Markup.shown_of_literal ((verbatim_comparisonRows h row hrow).2 text htext) emoji
  exact Outcome.bind_eq_ok.2 ⟨_, hrows, rfl⟩

/-- The lines of a comparison have the same width. -/
theorem exists_width_comparisonLines {comparison : Comparison}
    (h : ∀ change ∈ comparison.changes, Literal change.1.toList) {color emoji : Bool} {lines : List String}
    (hlines : comparisonLines comparison color emoji = .ok lines) :
    ∃ total, ∀ line ∈ lines, width line.toList = total := by
  rw [comparisonLines_eq h] at hlines
  cases hlines
  have hheadings : ∀ column ∈ comparisonColumns, Literal column.heading := by decide
  have hsign : ∀ color, Literal [ruleSign color] ∧ cells (ruleSign color) = 1 := by decide +kernel
  refine exists_width_tableLines (List.cons_ne_nil _ _)
    (fun column hcolumn => (hheadings column hcolumn).settled) ?_ ?_
  · rintro sign hmem
    obtain rfl := Option.some.inj hmem
    exact ⟨(hsign color).1.settled, (hsign color).2⟩
  · refine List.forall_mem_map.2 fun row hrow => ?_
    obtain ⟨hlength, hcells⟩ := verbatim_comparisonRows h row hrow
    refine ⟨(List.length_map _).trans hlength, List.forall_mem_map.2 fun text htext => ?_⟩
    exact (hcells text htext).settled

theorem literal_summaryRows (result : Result) :
    ∀ row ∈ summaryRows result, row.length = 2 ∧ ∀ text ∈ row, Literal text.toList := by
  have hmode : ∀ mode : Mode, Literal mode.name.toList := by intro mode; cases mode <;> decide
  have hlabel : ∀ priority ∈ Priority.all, Literal ("  " ++ priority.name).toList := by decide
  have htwo (label : String) {value : String} (hlabel : Literal label.toList) (hvalue : Literal value.toList) :
      [label, value].length = 2 ∧ ∀ text ∈ [label, value], Literal text.toList :=
    ⟨rfl, List.forall_mem_cons.2 ⟨hlabel, List.forall_mem_singleton.2 hvalue⟩⟩
  have htime : Literal (result.executionTime.toFixed 2 ++ "s").toList := by
    rw [String.toList_append]
    exact (Decimal.literal_toFixed _ _).append (by decide)
  have hcounts : ∀ row ∈ [["Mode", result.mode.name], ["Files analyzed", toString result.filesAnalyzed],
      ["Findings", toString result.metrics.totalFindings]],
        row.length = 2 ∧ ∀ text ∈ row, Literal text.toList :=
    List.forall_mem_cons.2 ⟨htwo "Mode" (by decide) (hmode _),
      List.forall_mem_cons.2 ⟨htwo "Files analyzed" (by decide) (Decimal.literal_toString_int _),
        List.forall_mem_singleton.2 (htwo "Findings" (by decide) (Decimal.literal_toString_int _))⟩⟩
  rw [summaryRows]
  refine List.forall_mem_append.2 ⟨List.forall_mem_append.2 ⟨hcounts, List.forall_mem_map.2 ?_⟩,
    List.forall_mem_singleton.2 (htwo "Execution time" (by decide) htime)⟩
  exact fun priority hpriority =>
    htwo ("  " ++ priority.name) (hlabel priority hpriority) (Decimal.literal_toString_int _)

/-- The lines of a summary have the same width, but for the one with the place of the report. -/
theorem exists_width_summaryLines (result : Result) : ∃ table, ∃ total,
    (∀ line ∈ table, width line.toList = total) ∧ summaryLines result = table ++
      result.reportPath.toList.map fun path => String.ofList (printed ("Report: " ++ path.text).toList) := by
  have hcells : ∀ row ∈ (summaryRows result).map (fun row => row.map (·.toList)),
      row.length = 2 ∧ ∀ text ∈ row, Settled text := by
    refine List.forall_mem_map.2 fun row hrow => ?_
    obtain ⟨hlength, hliteral⟩ := literal_summaryRows result row hrow
    exact ⟨(List.length_map _).trans hlength,
      List.forall_mem_map.2 fun text htext => (hliteral text htext).settled⟩
  have htable : ∃ total, ∀ line ∈ tableLines [⟨[], .left, .ellipsis, false, "Execution time".length, 0, 1⟩,
      ⟨[], .right, .ellipsis, false, 0, 1, 0⟩] none
        ((summaryRows result).map fun row => row.map (·.toList)), width line.toList = total :=
    exists_width_tableLines (List.cons_ne_nil _ _) (by simp [Settled]) nofun hcells
  obtain ⟨total, htotal⟩ := htable
  exact ⟨_, total, htotal, rfl⟩

end Console

end KotlinAudit
