import KotlinAudit.Proofs.Pattern.Capture
import KotlinAudit.Proofs.Rule.Catalogue
import KotlinAudit.Proofs.Text.Lines
import KotlinAudit.Rule.Documentation
import KotlinAudit.Rule.ErrorHandling
import KotlinAudit.Rule.Security
import KotlinAudit.Rule.StateManagement

/-! Where the bundled analyzers place what they find. In every text, whole or broken, they come to an end
and report lines that exist; on the way there every line, column and group that they look up is there. What the
rules on security, state, documentation and errors say, they say about a line that holds what they look for,
under its number. Lines are counted by all that breaks them, so this is the number of the physical line exactly
if nothing but line feeds breaks lines in front of it. -/
namespace KotlinAudit.Rule

open Source (startsWith)
open Text (Line)

/-- The groups that the rules read, each with the pattern whose match it belongs to. -/
def readGroups : List (Pattern × Nat) :=
  [(Source.functionHeader, Source.nameGroup), (Source.classHeader, Source.nameGroup),
    (Naming.typeDeclaration, Source.nameGroup), (Naming.functionDeclaration, Source.nameGroup),
    (Naming.constDeclaration, Source.nameGroup), (ErrorHandling.catchClause, 1),
    (StateManagement.directMutation, 1), (StateManagement.globalScope, 1),
    (DependencyInjection.classHeader, 1), (DependencyInjection.moduleDeclaration, 1),
    (Database.daoFunction, Database.nameGroup), (Database.returnType, 1),
    (Performance.collectionOperation, 1), (Performance.stringVariable, 1),
    (Documentation.declaration, Documentation.modifiersGroup),
    (Documentation.declaration, Documentation.kindGroup),
    (Documentation.declaration, Documentation.nameGroup)]

theorem captures_of_mem_readGroups :
    ∀ entry ∈ readGroups, entry.1.captures entry.2 = true := by decide +kernel

/-- Whatever the rules look up in the lines of a file is there. -/
structure Grounded (lines : List Line) : Prop where
  /-- The lines that a block scan goes over exist up to the last one. -/
  block : ∀ start < lines.length,
    start ≤ Source.blockEnd lines start ∧ Source.blockEnd lines start < lines.length
  composable : ∀ composable ∈ Compose.composables lines, composable.index < lines.length
  /-- The look-ahead for the function of an annotation comes to an answer, and to a line that exists. -/
  function : ∀ start : Nat, ∃ next, Database.nextFunction? lines start = some next ∧
    ∀ function ∈ next, ∃ index : Nat, function.index = index ∧ index < lines.length
  /-- A line that starts with the annotation has a column where it stands. -/
  query : ∀ line ∈ lines, startsWith "@Query" line = true →
    (Text.find? "@Query".toList line).isSome = true
  /-- Parentheses are looked for from any column, also one of another text. -/
  parenthesized : ∀ (region : List Line) (start column : Nat),
    (Source.parenthesized? region start column).isSome = true
  statements : ∀ index column : Nat, (Source.catchStatements? lines index column).isSome = true
  groups : ∀ entry ∈ readGroups, ∀ text : List Char,
    (∀ found, entry.1.matchStart? text = some found → (found.group? entry.2).isSome = true) ∧
    (∀ found, entry.1.search? text = some found → (found.group? entry.2).isSome = true) ∧
    ∀ found ∈ entry.1.findAll text, (found.group? entry.2).isSome = true

theorem grounded (lines : List Line) : Grounded lines where
  block _ h := Source.blockEnd_lt h
  composable _ h := Compose.lt_of_mem_composables h
  function start := by
    have hsome : (Database.nextFunction? lines start).isSome = true := by
      rw [Database.nextFunction?, Option.isSome_map]
      exact Option.isSome_of_eq_some (Source.reach?_natCast lines (start + 1))
    obtain ⟨next, hnext⟩ := Option.isSome_iff_exists.1 hsome
    refine ⟨next, hnext, fun function hfunction => ?_⟩
    have hjoin : Database.nextFunction lines start = some function := by
      rw [Database.nextFunction, hnext, Option.join_some]
      exact hfunction
    obtain ⟨index, hindex, line, hline⟩ := Database.getElem?_of_nextFunction hjoin
    exact ⟨index, hindex, (List.getElem?_eq_some_iff.1 hline).1⟩
  query line _ h := by
    have hhead : "@Query".toList <+: Text.trim line := List.isPrefixOf_iff_prefix.1 h
    exact Text.isSome_find?_iff.2 (hhead.isInfix.trans (Text.trim_isInfix line))
  parenthesized := Source.isSome_parenthesized?
  statements := Source.isSome_catchStatements? lines
  groups entry hentry text := by
    have h := captures_of_mem_readGroups entry hentry
    exact ⟨fun _ => Pattern.isSome_group?_of_firstEnd h,
      fun _ => Pattern.isSome_group?_of_searchFrom? h,
      fun _ => Pattern.isSome_group?_of_mem_findAll h⟩

/-- An analyzer's finding in a file: under its name, at a line of the text, the first one if there is
none, and with the identifier of one of its rules there. -/
structure Placed (analyzer : Analyzer) (file : SourceFile) (lines : List Line)
    (finding : Finding) : Prop where
  reporter : finding.analyzer = analyzer.id
  aspect : finding.category = analyzer.category
  path : finding.file = file.relative
  positive : 1 ≤ finding.line
  within : finding.line ≤ max 1 lines.length
  identifier : ∃ rule, (analyzer.id, rule) ∈ headings ∧
    finding.id = findingId analyzer.id rule file.relative finding.line

namespace TestCoverage

theorem exists_anyFile {isFile : FileTest} {paths : List Path}
    (h : ∀ path ∈ paths, ∃ there, isFile path = .ok there) : ∃ any, anyFile isFile paths = .ok any := by
  induction paths with
  | nil => exact ⟨false, rfl⟩
  | cons path rest ih =>
    rw [List.forall_mem_cons] at h
    obtain ⟨there, hthere⟩ := h.1
    rw [anyFile, hthere]
    cases there with
    | true => exact ⟨true, rfl⟩
    | false => exact ih h.2

/-- Where the expected tests can be asked for, the rules come to an end. -/
theorem exists_rules {isFile : FileTest} {file : SourceFile} (text : List Char)
    (h : ∀ path ∈ expectedTests file, ∃ there, isFile path = .ok there) :
    ∃ drafts, rules isFile file text = .ok drafts := by
  obtain ⟨any, hany⟩ := exists_anyFile h
  unfold rules
  split
  · split
    · exact ⟨_, rfl⟩
    · exact ⟨_, rfl⟩
  split
  · exact ⟨_, rfl⟩
  dsimp only
  split
  · exact ⟨_, rfl⟩
  rw [hany]
  cases any with
  | true => exact ⟨_, rfl⟩
  | false => exact ⟨_, rfl⟩

end TestCoverage

/-- Of the chapters of the catalogue only the one on tests asks for anything. -/
theorem exists_drafts {chapter : Chapter} (h : chapter ∈ catalogue) {isFile : FileTest}
    {file : SourceFile} (text : List Char)
    (hanswers : ∀ path ∈ TestCoverage.expectedTests file, ∃ there, isFile path = .ok there) :
    ∃ drafts, chapter.drafts isFile file text = .ok drafts := by
  simp only [catalogue, List.mem_cons, List.not_mem_nil, or_false] at h
  rcases h with rfl | rfl | rfl | rfl | rfl | rfl | rfl | rfl | rfl | rfl | rfl | rfl
  case inr.inr.inr.inr.inr.inr.inr.inr.inr.inr.inl =>
    obtain ⟨drafts, hdrafts⟩ := TestCoverage.exists_rules text hanswers
    exact ⟨drafts, Outcome.mapError_eq_ok.2 hdrafts⟩
  all_goals exact ⟨_, rfl⟩

/-- What a chapter drafts is placed in the file. -/
theorem placed_of_mem_drafts {chapter : Chapter} (h : chapter ∈ catalogue) {isFile : FileTest}
    {file : SourceFile} {text : List Char} {drafts : List Draft}
    (hdrafts : chapter.drafts isFile file text = .ok drafts) {draft : Draft} (hdraft : draft ∈ drafts) :
    Placed chapter.analyzer file (Text.lines text)
      (draft.finding chapter.analyzer.id chapter.analyzer.category file) := by
  obtain ⟨titles, hnames, hlisted⟩ := covers_of_mem_catalogue h _ _ _ _ hdrafts
  have htold := hlisted draft hdraft
  have hrule : draft.rule ∈ chapter.rules := by
    rw [← hnames draft.line]
    exact List.mem_map_of_mem htold.title
  exact {
    reporter := rfl
    aspect := rfl
    path := rfl
    positive := Int.ofNat_le.2 htold.positive
    within := Int.ofNat_le.2 htold.within
    identifier := ⟨draft.rule, mem_headings_iff.2 ⟨chapter, h, rfl, hrule⟩, rfl⟩ }

/-- Whatever the text is, and whether or not the file concerns it, a bundled analyzer finds all that it
looks up and comes to an end, if only the expected tests can be asked for. What it reports stands under
its own name, at a line of the text, the first one if there is none, and has the identifier of one of its
rules at that line of the file. -/
theorem analyze_placed {analyzer : Analyzer} (h : analyzer ∈ bundledAnalyzers) {isFile : FileTest}
    {file : SourceFile} (text : List Char)
    (hanswers : ∀ path ∈ TestCoverage.expectedTests file, ∃ there, isFile path = .ok there) :
    Grounded (Text.lines text) ∧ ∃ findings, analyzer.analyze isFile file text = .ok findings ∧
      ∀ finding ∈ findings, Placed analyzer file (Text.lines text) finding := by
  refine ⟨grounded _, ?_⟩
  rw [← analyzers_catalogue] at h
  obtain ⟨chapter, hchapter, rfl⟩ := List.mem_map.1 h
  obtain ⟨drafts, hdrafts⟩ := exists_drafts hchapter text hanswers
  refine ⟨_, by rw [reports_of_mem_catalogue hchapter, hdrafts]; rfl, fun finding hfinding => ?_⟩
  obtain ⟨draft, hdraft, rfl⟩ := List.mem_map.1 hfinding
  exact placed_of_mem_drafts hchapter hdrafts hdraft

/-- A data access object whose last line breaks off. -/
def brokenDao : SourceFile :=
  ⟨⟨1, ["app", "src", "main", "MealDao.kt"]⟩, "app/src/main/MealDao.kt", 51, 0, some .data⟩

def brokenDaoText : List Char :=
  "@Dao\ninterface MealDao \x7b\n@Query(\"SELECT \" + x)\nfun all(x".toList

theorem mem_bundled_database : Database.analyzer ∈ bundledAnalyzers :=
  List.mem_of_getElem? (i := 7) rfl

theorem analyze_placed_brokenDao : ∃ findings,
    Database.analyzer.analyze (fun _ => .ok false) brokenDao brokenDaoText = .ok findings ∧
      findings.map (fun finding => (finding.id, finding.line)) =
        [("database-query-flow-app-src-main-MealDao.kt-4", 4),
          ("database-query-concatenation-app-src-main-MealDao.kt-3", 3)] ∧
      ∀ finding ∈ findings, Placed Database.analyzer brokenDao (Text.lines brokenDaoText) finding := by
  have hanswers : ∀ path ∈ TestCoverage.expectedTests brokenDao,
      ∃ there, (fun _ => .ok false : FileTest) path = .ok there := fun _ _ => ⟨false, rfl⟩
  obtain ⟨-, findings, hfindings, hplaced⟩ :=
    analyze_placed mem_bundled_database brokenDaoText hanswers
  refine ⟨findings, hfindings, ?_, hplaced⟩
  obtain rfl := Except.ok.inj hfindings
  rw [List.map_map]
  decide +kernel

/-! ### The numbers of lines -/

section LineNumbers

/-- Analyzers whose rules look at one line after the other. -/
def lineAnalyzers : List Analyzer :=
  [Security.analyzer, StateManagement.analyzer, Documentation.analyzer, ErrorHandling.analyzer]

/-- What the rules of these analyzers look for in a line. -/
def constructs : List (String × (Line → Bool)) :=
  [("hardcoded-secret", fun line => (Security.secretIndex? (Text.trim line)).isSome),
    ("cleartext-url", fun line => Security.cleartextUrl.occursIn (Text.trim line)),
    ("direct-state-mutation", fun line => StateManagement.directMutation.occursIn (Text.trim line)),
    ("global-scope", fun line => StateManagement.globalScope.occursIn (Text.trim line)),
    ("missing-kdoc", fun line => Documentation.declaration.matchesStart (Text.trim line)),
    ("swallowed-exception", ErrorHandling.catchClause.occursIn),
    ("generic-catch", ErrorHandling.catchClause.occursIn)]

/-- A draft about a line that holds what its rule looks for. -/
structure About (index : Nat) (line : Line) (draft : Draft) : Prop where
  number : draft.line = index + 1
  construct : ∃ holds, (draft.rule, holds) ∈ constructs ∧ holds line = true

/-- The index of the physical line on which the line with an index stands. -/
def physicalIndex (text : List Char) (index : Nat) : Nat := (Text.front text index).count '\n'

/-- A finding in a file, under the number of a line that holds what the rule looks for and stands on a
physical line. -/
structure Located (analyzer : Analyzer) (file : SourceFile) (text : List Char) (finding : Finding)
    (index : Nat) (line : Line) : Prop where
  number : finding.line = index + 1
  stands : (Text.lines text)[index]? = some line
  construct : ∃ rule holds, (rule, holds) ∈ constructs ∧ holds line = true ∧
    finding.id = findingId analyzer.id rule file.relative finding.line
  physical : ∃ physical, (Text.splitAll (· == '\n') text)[physicalIndex text index]? = some physical ∧
    line <:+: physical

variable {lines : List Line} {index : Nat} {line : Line} {draft : Draft}

theorem Security.about (h : draft ∈ lineDrafts (index + 1) (Text.trim line)) : About index line draft := by
  rw [lineDrafts] at h
  split at h
  · exact absurd h List.not_mem_nil
  rcases List.mem_append.1 h with h | h
  · split at h
    · next hsecret =>
      obtain rfl := List.mem_singleton.1 h
      exact ⟨rfl, _, List.mem_of_getElem? (i := 0) rfl, hsecret⟩
    · exact absurd h List.not_mem_nil
  · split at h
    · next hurl =>
      obtain rfl := List.mem_singleton.1 h
      exact ⟨rfl, _, List.mem_of_getElem? (i := 1) rfl, hurl⟩
    · exact absurd h List.not_mem_nil

theorem StateManagement.about (h : draft ∈ lineDrafts (index + 1) (Text.trim line)) :
    About index line draft := by
  rw [lineDrafts] at h
  split at h
  · exact absurd h List.not_mem_nil
  rcases List.mem_append.1 h with h | h
  · obtain ⟨found, hfound, rfl⟩ := List.mem_map.1 h
    exact ⟨rfl, _, List.mem_of_getElem? (i := 2) rfl, Option.isSome_of_mem (Option.mem_toList.1 hfound)⟩
  · obtain ⟨found, hfound, rfl⟩ := List.mem_map.1 h
    exact ⟨rfl, _, List.mem_of_getElem? (i := 3) rfl, Option.isSome_of_mem (Option.mem_toList.1 hfound)⟩

theorem Documentation.about (h : lineDraft? lines index line = some draft) : About index line draft := by
  rw [lineDraft?] at h
  split at h
  · cases h
  next found hfound =>
  dsimp only at h
  split at h
  · cases h
  split at h
  · cases h
  · cases h
    exact ⟨rfl, _, List.mem_of_getElem? (i := 4) rfl, Option.isSome_of_mem hfound⟩

theorem ErrorHandling.about (h : draft ∈ lineDrafts lines index line) : About index line draft := by
  rw [lineDrafts] at h
  split at h
  · exact absurd h List.not_mem_nil
  next found hfound =>
  dsimp only at h
  rcases List.mem_append.1 h with h | h
  · split at h
    · obtain rfl := List.mem_singleton.1 h
      exact ⟨rfl, _, List.mem_of_getElem? (i := 5) rfl, Option.isSome_of_mem hfound⟩
    · exact absurd h List.not_mem_nil
  · split at h
    · obtain rfl := List.mem_singleton.1 h
      exact ⟨rfl, _, List.mem_of_getElem? (i := 6) rfl, Option.isSome_of_mem hfound⟩
    · exact absurd h List.not_mem_nil

theorem exists_of_mem_flatMap_zipIdx {drafts : Line × Nat → List Draft}
    (h : draft ∈ lines.zipIdx.flatMap drafts) :
    ∃ index line, lines[index]? = some line ∧ draft ∈ drafts (line, index) := by
  obtain ⟨⟨line, index⟩, hline, hdraft⟩ := List.mem_flatMap.1 h
  exact ⟨index, line, List.mem_zipIdx_iff_getElem?.1 hline, hdraft⟩

/-- What is drafted under the number of a line is drafted about this line. -/
theorem mem_flatMap_zipIdx_iff {drafts : Line × Nat → List Draft}
    (hnumber : ∀ line index, ∀ draft ∈ drafts (line, index), draft.line = index + 1)
    (hline : lines[index]? = some line) :
    draft ∈ lines.zipIdx.flatMap drafts ∧ draft.line = index + 1 ↔ draft ∈ drafts (line, index) := by
  constructor
  · rintro ⟨hdraft, hindex⟩
    obtain ⟨place, same, hsame, hdraft⟩ := exists_of_mem_flatMap_zipIdx hdraft
    obtain rfl : place = index := Nat.succ.inj ((hnumber same place draft hdraft).symm.trans hindex)
    obtain rfl := Option.some.inj (hline.symm.trans hsame)
    exact hdraft
  · intro hdraft
    exact ⟨List.mem_flatMap.2 ⟨(line, index), List.mem_zipIdx_iff_getElem?.2 hline, hdraft⟩,
      hnumber line index draft hdraft⟩

/-- Findings keep the numbers and the titles of their drafts. -/
theorem exists_finding_iff {drafts : List Draft} {analyzer : String} {category : Category} {file : SourceFile}
    {title : String} : (∃ finding : Finding, finding ∈ drafts.map (·.finding analyzer category file) ∧
      finding.line = index + 1 ∧ finding.title = title) ↔
      ∃ draft ∈ drafts, draft.line = index + 1 ∧ draft.title = title := by
  constructor
  · rintro ⟨finding, hfinding, hnumber, htitle⟩
    obtain ⟨draft, hdraft, rfl⟩ := List.mem_map.1 hfinding
    exact ⟨draft, hdraft, Int.ofNat.inj hnumber, htitle⟩
  · rintro ⟨draft, hdraft, hnumber, htitle⟩
    exact ⟨_, List.mem_map_of_mem hdraft, congrArg Int.ofNat hnumber, htitle⟩

/-- Whatever is drafted about a text is about one of its lines. -/
theorem exists_about {analyzer : Analyzer} (h : analyzer ∈ lineAnalyzers) (isFile : FileTest)
    (file : SourceFile) (text : List Char) : ∃ drafts : List Draft,
      analyzer.analyze isFile file text =
        .ok (drafts.map (·.finding analyzer.id analyzer.category file)) ∧
      ∀ draft ∈ drafts, ∃ index line,
        (Text.lines text)[index]? = some line ∧ About index line draft := by
  simp only [lineAnalyzers, List.mem_cons, List.not_mem_nil, or_false] at h
  rcases h with rfl | rfl | rfl | rfl
  · refine ⟨Security.rules text, rfl, fun draft hdraft => ?_⟩
    obtain ⟨index, line, hline, hdraft⟩ := exists_of_mem_flatMap_zipIdx hdraft
    exact ⟨index, line, hline, Security.about hdraft⟩
  · refine ⟨StateManagement.rules text, rfl, fun draft hdraft => ?_⟩
    obtain ⟨index, line, hline, hdraft⟩ := exists_of_mem_flatMap_zipIdx hdraft
    exact ⟨index, line, hline, StateManagement.about hdraft⟩
  · refine ⟨Documentation.rules text, rfl, fun draft hdraft => ?_⟩
    obtain ⟨⟨line, index⟩, hline, hdraft⟩ := List.mem_filterMap.1 hdraft
    exact ⟨index, line, List.mem_zipIdx_iff_getElem?.1 hline, Documentation.about hdraft⟩
  · refine ⟨ErrorHandling.rules text, rfl, fun draft hdraft => ?_⟩
    obtain ⟨index, line, hline, hdraft⟩ := exists_of_mem_flatMap_zipIdx hdraft
    exact ⟨index, line, hline, ErrorHandling.about hdraft⟩

/-- Every finding is located at a line, and its number is that of the physical line exactly if no other break
than a line feed stands in front of the line. -/
theorem line_eq_physical_iff {analyzer : Analyzer} (h : analyzer ∈ lineAnalyzers) (isFile : FileTest)
    (file : SourceFile) (text : List Char) : ∃ findings,
      analyzer.analyze isFile file text = .ok findings ∧
        ∀ finding ∈ findings, ∃ index line, Located analyzer file text finding index line ∧
          (finding.line = physicalIndex text index + 1 ↔
            Text.otherBreaks (Text.front text index) = 0) := by
  obtain ⟨drafts, hdrafts, habout⟩ := exists_about h isFile file text
  refine ⟨_, hdrafts, fun finding hfinding => ?_⟩
  obtain ⟨draft, hdraft, rfl⟩ := List.mem_map.1 hfinding
  obtain ⟨index, line, hline, hnumber, holds, hrule, hholds⟩ := habout draft hdraft
  have hreported : (draft.finding analyzer.id analyzer.category file).line = index + 1 := by
    rw [Draft.finding, hnumber]
    rfl
  refine ⟨index, line, ⟨hreported, hline, ⟨draft.rule, holds, hrule, hholds, rfl⟩,
    Text.exists_physical hline⟩, ?_⟩
  have hindex := Text.index_eq_count hline
  rw [hreported, physicalIndex]
  omega

def separated : SourceFile := ⟨⟨1, ["A.kt"]⟩, "A.kt", 51, 0, none⟩

/-- A source with a line separator inside a quoted text. -/
def separatedText : List Char :=
  "val separator = \"\u2028\"\nval url = \"http://example.com\"\n".toList

/-- What stands on the second physical line is reported on line three. -/
theorem line_eq_physical_iff_separated : ∃ findings,
    Security.analyzer.analyze (fun _ => .ok false) separated separatedText = .ok findings ∧
      findings.map (·.line) = [3] ∧ ∀ finding ∈ findings, ∃ index line,
        Located Security.analyzer separated separatedText finding index line ∧
          physicalIndex separatedText index = 1 := by
  obtain ⟨findings, hfindings, hlocated⟩ := @line_eq_physical_iff Security.analyzer
    (List.mem_of_getElem? (i := 0) rfl) (fun _ => .ok false) separated separatedText
  have hlines : findings.map (·.line) = [3] := by
    obtain rfl := Except.ok.inj hfindings
    rw [List.map_map]
    exact (show (Security.rules separatedText).map (fun draft => (draft.line : Int)) = [3] by decide +kernel)
  refine ⟨findings, hfindings, hlines, fun finding hfinding => ?_⟩
  obtain ⟨index, line, hlocated, -⟩ := hlocated finding hfinding
  refine ⟨index, line, hlocated, ?_⟩
  have hline : finding.line ∈ [3] := hlines ▸ List.mem_map_of_mem hfinding
  have hnumber := hlocated.number
  rw [List.mem_singleton.1 hline] at hnumber
  obtain rfl : index = 2 := by omega
  decide

end LineNumbers

end KotlinAudit.Rule
