import KotlinAudit.Proofs.Aggregation.Order
import KotlinAudit.Proofs.Stable
import KotlinAudit.Proofs.Text.Scan
import KotlinAudit.Report.Markdown

/-! The findings in a report: sections by priority, in each of them the files, and in each file the blocks
of its findings. Grouped and sorted at every level, the blocks stand in the stable order of all findings by
severity, file and line, and a heading counts the blocks below it. A block shows its finding: where it is, what
it is about, and whatever else is known of it. -/
namespace KotlinAudit

open Stable (sortedBy)

namespace Priority

/-- How a priority is headed. -/
def heading : Priority → String
  | critical => "Critical"
  | high => "High"
  | medium => "Medium"
  | low => "Low"

/-- When a priority has its turn. -/
def turn : Priority → Nat
  | critical => 1
  | high => 2
  | medium => 3
  | low => 4

theorem label_name (priority : Priority) : Report.label priority.name = priority.heading := by
  cases priority <;> decide

theorem turn_injective {priority other : Priority} (h : priority.turn = other.turn) : priority = other := by
  revert h
  cases priority <;> cases other <;> decide

end Priority

namespace Category

def heading : Category → String
  | architecture => "Architecture"
  | compose => "Compose"
  | stateManagement => "State Management"
  | errorHandling => "Error Handling"
  | dependencyInjection => "Dependency Injection"
  | database => "Database"
  | performance => "Performance"
  | naming => "Naming"
  | testCoverage => "Test Coverage"
  | documentation => "Documentation"
  | security => "Security"
  | codeSmell => "Code Smell"

theorem label_name (category : Category) : Report.label category.name = category.heading := by
  cases category <;> decide

end Category

namespace Finding

/-- Where a report has a finding: the more severe first, then by file, then by line. -/
def place (finding : Finding) : ℕ ×ₗ String ×ₗ ℤ :=
  toLex (finding.priority.turn, toLex (finding.file, finding.line))

theorem place_eq_iff {finding : Finding} {priority : Priority} {file : String} {line : Int} :
    finding.place = toLex (priority.turn, toLex (file, line)) ↔
      finding.priority = priority ∧ finding.file = file ∧ finding.line = line := by
  constructor
  · intro h
    obtain ⟨hturn, hplace⟩ := Prod.mk.inj (toLex.injective h)
    exact ⟨Priority.turn_injective hturn, Prod.mk.inj (toLex.injective hplace)⟩
  · rintro ⟨rfl, rfl, rfl⟩
    rfl

/-! ### The block of a finding -/

def lineText (finding : Finding) : String :=
  match finding.column with
  | none => s!"line {finding.line}"
  | some column => s!"line {finding.line}, column {column}"

/-- Code stands between fences; where there is none, nothing is shown. -/
def fenced (headings : List (List String)) (code : String) : List (List String) :=
  if code = "" then [] else headings ++ [["```kotlin", code, "```"]]

/-- What a report shows of a finding. -/
def paragraphs (finding : Finding) : List (List String) :=
  [[s!"##### {finding.title} ({finding.lineText})"],
    [s!"- **ID:** `{finding.id}`", s!"- **Analyzer:** {finding.analyzer}",
      s!"- **Category:** {finding.category.heading}", s!"- **Effort:** {finding.effort.name}"],
    [finding.description]] ++
  fenced [] finding.snippet ++
  (if finding.recommendation = "" then [] else [[s!"**Recommendation:** {finding.recommendation}"]]) ++
  fenced [["Before:"]] (finding.before.getD "") ++ fenced [["After:"]] (finding.after.getD "") ++
  if finding.references = [] then []
  else ["References:" :: finding.references.map ("- " ++ ·)]

/-- The lines of a finding, with an empty line after each paragraph. -/
def block (finding : Finding) : List String := finding.paragraphs.flatMap (· ++ [""])

end Finding

namespace Report

theorem codeBlock_eq (headings : List (List String)) (code : String) (h : code ≠ "") :
    headings.flatMap (· ++ [""]) ++ codeBlock code = (Finding.fenced headings code).flatMap (· ++ [""]) := by
  rw [Finding.fenced, if_neg h, List.flatMap_append]
  rfl

theorem example?_eq (heading : String) (code : Option String) :
    example? heading code = (Finding.fenced [[heading]] (code.getD "")).flatMap (· ++ [""]) := by
  unfold example?
  split
  · rfl
  · rfl
  · next code hcode => exact codeBlock_eq [[heading]] code hcode

/-- What is said of a finding are its paragraphs. -/
theorem finding_eq_block (finding : Finding) : Report.finding finding = finding.block := by
  have hsnippet : (if finding.snippet.isEmpty then [] else codeBlock finding.snippet) =
      (Finding.fenced [] finding.snippet).flatMap (· ++ [""]) := by
    split
    · next hempty => rw [Finding.fenced, if_pos (String.isEmpty_iff.1 hempty), List.flatMap_nil]
    · next hfull => exact codeBlock_eq [] _ (mt String.isEmpty_iff.2 hfull)
  have hrecommendation : (if finding.recommendation.isEmpty then []
      else ["**Recommendation:** " ++ finding.recommendation, ""]) =
        List.flatMap (· ++ [""]) (if finding.recommendation = "" then []
          else [[s!"**Recommendation:** {finding.recommendation}"]]) := by
    simp only [String.isEmpty_iff]
    split <;> rfl
  have hreferences : (if finding.references.isEmpty then []
      else "References:" :: finding.references.map ("- " ++ ·) ++ [""]) =
        List.flatMap (· ++ [""]) (if finding.references = [] then []
          else ["References:" :: finding.references.map ("- " ++ ·)]) := by
    simp only [List.isEmpty_iff]
    split
    · rfl
    · rw [List.flatMap_singleton]
  unfold Report.finding
  dsimp only
  rw [hsnippet, hrecommendation, example?_eq, example?_eq, hreferences, Finding.block, Finding.paragraphs]
  simp only [List.flatMap_append]
  rw [Category.label_name]
  rfl

/-- The findings of one priority in a report, file by file. -/
structure Section where
  priority : Priority
  files : List (String × List Finding)

namespace Section

/-- The findings whose blocks stand in a section, in their order. -/
def blocks (part : Section) : List Finding := part.files.flatMap Prod.snd

/-- The lines of a section. Its heading tells how many blocks it has. -/
def lines (part : Section) : List String :=
  [s!"### {part.priority.heading} ({part.blocks.length})", ""] ++
    part.files.flatMap fun (file, blocks) => [s!"#### `{file}`", ""] ++ blocks.flatMap Finding.block

/-- The section of a priority among some findings. -/
def of (findings : List Finding) (priority : Priority) : Section :=
  let chosen := findings.filter (·.priority == priority)
  ⟨priority, (Text.sortedSet (chosen.map (·.file))).map fun file =>
    (file, sortedBy (·.line) (chosen.filter (·.file == file)))⟩

/-- The blocks of a section are sorted by file and line. -/
theorem blocks_of (findings : List Finding) (priority : Priority) :
    (of findings priority).blocks = sortedBy (fun finding => toLex (finding.file, finding.line))
      (findings.filter (·.priority == priority)) := by
  rw [blocks, of, List.flatMap_map]
  refine (Stable.sortedBy_eq_flatMap (Text.pairwise_lt_sortedSet _) ?_ _).symm
  exact fun finding hfinding => Text.mem_sortedSet.2 (List.mem_map_of_mem hfinding)

theorem lines_of (findings : List Finding) (priority : Priority) :
    (of findings priority).lines =
      ["### " ++ label priority.name ++ " (" ++
          toString (findings.filter (·.priority == priority)).length ++ ")", ""] ++
        (Text.sortedSet ((findings.filter (·.priority == priority)).map (·.file))).flatMap fun file =>
          [s!"#### `{file}`", ""] ++ (sortedBy (·.line)
            ((findings.filter (·.priority == priority)).filter (·.file == file))).flatMap finding := by
  have hlength : (of findings priority).blocks.length =
      (findings.filter (·.priority == priority)).length := by
    rw [blocks_of]
    exact (Stable.perm_sortedBy _ _).length_eq
  rw [lines, hlength, of, List.flatMap_map, Priority.label_name, funext finding_eq_block]
  rfl

theorem mem_blocks_of {findings : List Finding} {priority : Priority} {finding : Finding} :
    finding ∈ (of findings priority).blocks ↔ finding ∈ findings ∧ finding.priority = priority := by
  rw [blocks_of, Stable.mem_sortedBy, List.mem_filter, beq_iff_eq]

/-- The section of a priority depends on nothing but the findings at each place. -/
theorem of_congr {findings others : List Finding} (priority : Priority)
    (h : ∀ place, findings.filter (·.place == place) = others.filter (·.place == place)) :
    of findings priority = of others priority := by
  have hfiles : Text.sortedSet ((findings.filter (·.priority == priority)).map (·.file)) =
      Text.sortedSet ((others.filter (·.priority == priority)).map (·.file)) := by
    refine Text.sortedSet_congr fun file => ?_
    simp only [List.mem_map, List.mem_filter, Stable.mem_iff_of_groups h]
  have hplace : ∀ (items : List Finding) (file : String) (line : Int),
      ((items.filter (·.priority == priority)).filter (·.file == file)).filter (·.line == line) =
        items.filter
          (·.place == toLex (priority.turn, toLex (file, line))) := by
    intro items file line
    rw [List.filter_filter, List.filter_filter]
    refine List.filter_congr fun finding _ => ?_
    rw [Bool.eq_iff_iff]
    simp only [Bool.and_eq_true, beq_iff_eq, Finding.place_eq_iff]
    tauto
  have hlines : ∀ file, sortedBy (·.line)
      ((findings.filter (·.priority == priority)).filter (·.file == file)) =
        sortedBy (·.line) ((others.filter (·.priority == priority)).filter (·.file == file)) :=
    fun file => Stable.sortedBy_congr fun line => by rw [hplace, hplace, h]
  rw [of, of, hfiles]
  simp only [hlines]

end Section

/-- The sections of a report: the priorities that some finding has, the most severe first. -/
def sections (findings : List Finding) : List Section :=
  (Priority.all.filter fun priority => findings.any (·.priority == priority)).map
    (Section.of findings)

theorem any_eq_false_iff {findings : List Finding} {priority : Priority} :
    findings.any (·.priority == priority) = false ↔
      findings.filter (·.priority == priority) = [] := by
  rw [List.any_eq_false, List.filter_eq_nil_iff]

theorem prioritySection_eq (findings : List Finding) (priority : Priority) :
    prioritySection findings priority =
      if findings.any (·.priority == priority) then (Section.of findings priority).lines else [] := by
  unfold prioritySection
  rw [Section.lines_of]
  cases hany : findings.any (·.priority == priority) with
  | false => exact if_pos (List.isEmpty_iff.2 (any_eq_false_iff.1 hany))
  | true =>
    refine if_neg fun hempty => ?_
    rw [any_eq_false_iff.2 (List.isEmpty_iff.1 hempty)] at hany
    cases hany

/-- What is made of the sections one after the other is made of the priorities that are there. -/
theorem flatMap_sections {β : Type} (findings : List Finding) (parts : Section → List β) :
    (sections findings).flatMap parts = Priority.all.flatMap fun priority =>
      if findings.any (·.priority == priority) then parts (Section.of findings priority) else [] := by
  rw [sections, List.flatMap_map]
  induction Priority.all with
  | nil => rfl
  | cons priority rest ih =>
    rw [List.filter_cons, List.flatMap_cons, ← ih]
    split_ifs with hany
    · rw [List.flatMap_cons]
    · rw [List.nil_append]

theorem findings_eq_sections {findings : List Finding} (h : findings ≠ []) :
    Report.findings findings =
      "## Findings" :: "" :: (sections findings).flatMap Section.lines := by
  rw [flatMap_sections, Report.findings, if_neg (mt List.isEmpty_iff.1 h),
    List.flatMap_congr fun priority _ => prioritySection_eq findings priority]

/-- The blocks of all sections stand in the stable order of all findings by their places. -/
theorem blocks_sections (findings : List Finding) :
    (sections findings).flatMap Section.blocks = sortedBy Finding.place findings := by
  have hkeys : (Priority.all.map fun priority => priority.turn).Pairwise (· < ·) := by
    decide
  have hall : ∀ finding ∈ findings, finding.priority.turn ∈
      Priority.all.map fun priority => priority.turn := by
    intro finding _
    cases finding.priority <;> decide
  have hplace : sortedBy Finding.place findings = _ :=
    Stable.sortedBy_eq_flatMap hkeys hall fun finding => toLex (finding.file, finding.line)
  rw [hplace, List.flatMap_map, flatMap_sections]
  refine List.flatMap_congr fun priority _ => ?_
  have hgroup : (findings.filter fun finding =>
      finding.priority.turn == priority.turn) =
        findings.filter (·.priority == priority) := by
    refine List.filter_congr fun finding _ => ?_
    rw [Bool.eq_iff_iff, beq_iff_eq, beq_iff_eq]
    exact ⟨Priority.turn_injective, fun h => h ▸ rfl⟩
  rw [hgroup, ← Section.blocks_of]
  split_ifs with hany
  · rfl
  · rw [Section.blocks_of, any_eq_false_iff.1 (Bool.not_eq_true _ ▸ hany)]
    exact (Stable.perm_sortedBy _ []).eq_nil.symm

theorem mem_sections {findings : List Finding} {part : Section} :
    part ∈ sections findings ↔
      (∃ finding ∈ findings, finding.priority = part.priority) ∧
        part = Section.of findings part.priority := by
  have hall : part.priority ∈ Priority.all := by
    cases part.priority <;> decide
  rw [sections, List.mem_map]
  constructor
  · rintro ⟨priority, hpriority, rfl⟩
    have hany := (List.mem_filter.1 hpriority).2
    simp only [List.any_eq_true, beq_iff_eq] at hany
    exact ⟨hany, rfl⟩
  · rintro ⟨hany, hpart⟩
    refine ⟨part.priority, List.mem_filter.2 ⟨hall, ?_⟩, hpart.symm⟩
    simpa only [List.any_eq_true, beq_iff_eq] using hany

/-- The number of blocks below the heading of a priority, none where there is no such heading. -/
def blockCount (findings : List Finding) (priority : Priority) : Nat :=
  (((sections findings).filter (·.priority == priority)).flatMap Section.blocks).length

theorem blockCount_eq (findings : List Finding) (priority : Priority) :
    blockCount findings priority = findings.countP (·.priority == priority) := by
  have hpriority : ∀ part ∈ sections findings, ∀ finding ∈ part.blocks,
      (finding.priority == priority) = (part.priority == priority) := by
    intro part hpart finding hfinding
    rw [(mem_sections.1 hpart).2, Section.mem_blocks_of] at hfinding
    rw [hfinding.2]
  rw [blockCount, Stable.flatMap_filter hpriority, ← List.filter_flatMap, blocks_sections,
    ← List.countP_eq_length_filter]
  exact (Stable.perm_sortedBy _ _).countP_eq _

theorem blockCount_of_mem {findings : List Finding} {part : Section} (h : part ∈ sections findings) :
    blockCount findings part.priority = part.blocks.length := by
  rw [(mem_sections.1 h).2, Section.blocks_of, (Stable.perm_sortedBy _ _).length_eq, blockCount_eq,
    List.countP_eq_length_filter]
  rfl

/-- The rows of a table that counts findings by priority. -/
def countRows (count : Priority → Nat) : List String :=
  [.critical, .high, .medium, .low].map fun priority : Priority =>
    s!"| {priority.heading} | {count priority} |"

theorem table_eq_countRows (count : Priority → Nat) :
    table ["Priority", "Count"] (Priority.all.map fun priority => [label priority.name, toString (count priority)]) =
      "| Priority | Count |" :: "|---|---|" :: countRows count := by
  simp only [Priority.label_name]
  rfl

/-- The table of a summary counts the blocks below each heading of the findings that are put together. -/
theorem exists_summary_eq {raw : List Finding} {aggregate : Aggregate}
    (h : Aggregate.ofFindings raw = .ok aggregate) (baseline : Option Baseline) :
    ∃ before after, summary aggregate.metrics baseline =
      before ++ ["", "### Findings by Priority", "", "| Priority | Count |", "|---|---|"] ++
        countRows (blockCount aggregate.findings) ++ after := by
  obtain ⟨metrics, hmetrics, rfl⟩ := Aggregate.ofFindings_eq_ok.1 h
  dsimp only
  have hrows : Priority.all.map (fun priority =>
      [label priority.name, toString (metrics.byPriority.get priority)]) =
        Priority.all.map fun priority =>
          [label priority.name, toString (blockCount (Aggregate.resolved raw) priority)] := by
    refine List.map_congr_left fun priority _ => ?_
    rw [Metrics.byPriority_get hmetrics, blockCount_eq]
    rfl
  unfold summary
  dsimp only
  rw [hrows, table_eq_countRows]
  have hlines : ∀ before rows after others : List String,
      before ++ ["", "### Findings by Priority", ""] ++ ("| Priority | Count |" :: "|---|---|" :: rows) ++
          after ++ others =
        before ++ ["", "### Findings by Priority", "", "| Priority | Count |", "|---|---|"] ++ rows ++
          (after ++ others) := by
    intro before rows after others
    simp only [List.append_assoc, List.cons_append, List.nil_append]
  exact ⟨_, _, hlines _ _ _ _⟩

/-- The findings of a report depend on nothing but those at each place, in their order. -/
theorem findings_congr {findings others : List Finding}
    (h : ∀ place, others.filter (·.place == place) = findings.filter (·.place == place)) :
    Report.findings others = Report.findings findings := by
  have hmem := Stable.mem_iff_of_groups h
  have hany : ∀ priority : Priority, others.any (·.priority == priority) =
      findings.any (·.priority == priority) := by
    intro priority
    rw [Bool.eq_iff_iff, List.any_eq_true, List.any_eq_true]
    simp only [hmem]
  have hsections : sections others = sections findings := by
    have hof : Section.of others = Section.of findings :=
      funext fun priority => Section.of_congr priority h
    rw [sections, sections, hof]
    simp only [hany]
  by_cases hnone : findings = []
  · have hothers : others = [] := List.eq_nil_iff_forall_not_mem.2 fun finding hfinding =>
      List.not_mem_nil (hnone ▸ (hmem finding).1 hfinding)
    rw [hothers, hnone]
  · have hothers : others ≠ [] := by
      obtain ⟨finding, hfinding⟩ := List.exists_mem_of_ne_nil findings hnone
      exact List.ne_nil_of_mem ((hmem finding).2 hfinding)
    rw [findings_eq_sections hothers, findings_eq_sections hnone, hsections]

/-- The report of some findings has a block for each of them, in the stable order by severity, file and
line, under the headings of their priorities. The heading of a priority tells how many blocks it has, as
does the table of the summary where the findings have been put together. Findings that only change places
with others of another severity, file or line have the same report. -/
theorem findings_in_order {findings : List Finding} (h : findings ≠ []) :
    Report.findings findings =
      "## Findings" :: "" :: (sections findings).flatMap Section.lines ∧
    (sections findings).flatMap Section.blocks = sortedBy Finding.place findings ∧
    ((sections findings).map Section.priority).Sublist [.critical, .high, .medium, .low] ∧
    (∀ part ∈ sections findings, part.blocks ≠ [] ∧
      (∀ finding ∈ part.blocks, finding.priority = part.priority) ∧
      blockCount findings part.priority = part.blocks.length) ∧
    (∀ raw aggregate, Aggregate.ofFindings raw = .ok aggregate → aggregate.findings = findings →
      ∀ baseline, ∃ before after, summary aggregate.metrics baseline =
        before ++ ["", "### Findings by Priority", "", "| Priority | Count |", "|---|---|"] ++
          countRows (blockCount findings) ++ after) ∧
    ∀ others : List Finding,
      (∀ place, others.filter (·.place == place) = findings.filter (·.place == place)) →
        joined (Report.findings others) = joined (Report.findings findings) := by
  refine ⟨findings_eq_sections h, blocks_sections findings, ?_, ?_, ?_, ?_⟩
  · rw [sections, List.map_map]
    exact (List.map_id _).symm ▸ List.filter_sublist
  · intro part hpart
    obtain ⟨⟨finding, hfinding, hpriority⟩, hof⟩ := mem_sections.1 hpart
    refine ⟨?_, ?_, blockCount_of_mem hpart⟩
    · rw [hof]
      exact List.ne_nil_of_mem (Section.mem_blocks_of.2 ⟨hfinding, hpriority⟩)
    · rw [hof]
      exact fun finding hfinding => (Section.mem_blocks_of.1 hfinding).2
  · rintro raw aggregate haggregate rfl baseline
    exact exists_summary_eq haggregate baseline
  · exact fun others hothers => congrArg joined (findings_congr hothers)

/-- A critical finding and a less severe one beside it, in both orders. -/
theorem findings_in_order_mild : ∃ aggregate,
    Aggregate.ofFindings [Aggregate.beside, Aggregate.mild] = .ok aggregate ∧
    aggregate.findings = [Aggregate.beside, Aggregate.mild.raised] ∧
    ((sections aggregate.findings).flatMap Section.blocks).length = 2 ∧
    (∃ before after, summary aggregate.metrics none =
      before ++ ["", "### Findings by Priority", "", "| Priority | Count |", "|---|---|",
        "| Critical | 1 |", "| High | 1 |", "| Medium | 0 |", "| Low | 0 |"] ++ after) ∧
    joined (Report.findings [Aggregate.mild.raised, Aggregate.beside]) =
      joined (Report.findings aggregate.findings) := by
  have hmeasurable : Metrics.Measurable
      (Aggregate.resolved [Aggregate.beside, Aggregate.mild]) := by
    refine ⟨?_, ?_, ?_⟩ <;> exact ⟨by decide, by decide⟩
  obtain ⟨aggregate, haggregate⟩ := Aggregate.exists_ofFindings_iff.2 hmeasurable
  have hfindings : aggregate.findings = [Aggregate.beside, Aggregate.mild.raised] := by
    obtain ⟨metrics, -, rfl⟩ := Aggregate.ofFindings_eq_ok.1 haggregate
    rfl
  have hne : aggregate.findings ≠ [] := hfindings ▸ List.cons_ne_nil _ _
  obtain ⟨-, hblocks, -, -, hsummary, hsame⟩ := findings_in_order hne
  have hplaces : Aggregate.mild.raised.place ≠ Aggregate.beside.place := by decide
  refine ⟨aggregate, haggregate, hfindings, ?_, ?_, hsame _ fun place => ?_⟩
  · rw [hblocks, (Stable.perm_sortedBy _ _).length_eq, hfindings]
    rfl
  · have hrows : countRows (blockCount aggregate.findings) =
        ["| Critical | 1 |", "| High | 1 |", "| Medium | 0 |", "| Low | 0 |"] := by
      simp only [countRows, blockCount_eq, hfindings]
      decide
    obtain ⟨before, after, hlines⟩ := hsummary _ aggregate haggregate rfl none
    rw [hrows, List.append_assoc before] at hlines
    exact ⟨before, after, hlines⟩
  · -- no place has both findings
    rw [hfindings]
    by_cases hmild : Aggregate.mild.raised.place = place
    · subst hmild
      simp [hplaces.symm]
    · simp [List.filter_cons, hmild]

end Report
end KotlinAudit
