import KotlinAudit.Proofs.Aggregation.Resolved
import KotlinAudit.Proofs.Audit.Inspection
import KotlinAudit.Proofs.FileTree.Shelf
import KotlinAudit.Proofs.Registry
import KotlinAudit.Proofs.Rule.Catalogue
import KotlinAudit.Proofs.Text.Scan

/-! The identifiers of the findings that a run of the bundled analyzers keeps. They tell the analyzer, the
rule and the line, and the path as far as identifiers show it. Within a file a rule says one thing about a
line, so two kept findings of one file never share an identifier; findings of different files do if the
paths are shown alike, and only then does a baseline hold fewer identifiers than there are findings. -/
namespace KotlinAudit.Audit

open Identifier (shown)

/-- Where a finding comes from: what a chapter of the catalogue drafts about a file. -/
structure Origin where
  chapter : Rule.Chapter
  file : SourceFile
  draft : Draft

namespace Origin

def finding (origin : Origin) : Finding :=
  origin.draft.finding origin.chapter.analyzer.id origin.chapter.analyzer.category origin.file

/-- An origin in a run over some files; the analyzer is concerned with the file, which can be read. -/
structure Among (read : SourceReader) (tree : FileTree) (files : List SourceFile)
    (origin : Origin) : Prop where
  chapter : origin.chapter ∈ Rule.catalogue
  file : origin.file ∈ files
  concerned : origin.chapter.analyzer.appliesTo origin.file = .ok true
  draft : ∃ text drafts, read tree origin.file = .ok text ∧
    origin.chapter.drafts tree.hasFile origin.file text = .ok drafts ∧ origin.draft ∈ drafts

variable {read : SourceReader} {tree : FileTree} {files : List SourceFile} {origin other : Origin}

theorem mem_found_iff {chapter : Rule.Chapter} (h : chapter ∈ Rule.catalogue) {file : SourceFile}
    {text : List Char} {finding : Finding} :
    finding ∈ found tree.hasFile file text chapter.analyzer ↔
      chapter.analyzer.appliesTo file = .ok true ∧ ∃ drafts, chapter.drafts tree.hasFile file text =
        .ok drafts ∧ ∃ draft ∈ drafts, draft.finding chapter.analyzer.id chapter.analyzer.category file =
          finding := by
  unfold found
  split
  · next happlies =>
    rw [Rule.reports_of_mem_catalogue h]
    cases hdrafts : chapter.drafts tree.hasFile file text with
    | error failure => simp [Except.map, Except.toOption]
    | ok drafts => simp [Except.map, Except.toOption, happlies]
  · next happlies => simp [happlies]
  · next happlies => simp [happlies]

/-- The findings of a run are those of its origins. -/
theorem mem_run_iff {finding : Finding} :
    finding ∈ files.flatMap (foundIn read bundledAnalyzers tree) ↔
      ∃ origin : Origin, origin.Among read tree files ∧ origin.finding = finding := by
  rw [List.mem_flatMap]
  constructor
  · rintro ⟨file, hfile, hin⟩
    unfold foundIn at hin
    split at hin
    · next text htext =>
      obtain ⟨analyzer, hanalyzer, hfound⟩ := List.mem_flatMap.1 hin
      rw [← Rule.analyzers_catalogue] at hanalyzer
      obtain ⟨chapter, hchapter, rfl⟩ := List.mem_map.1 hanalyzer
      obtain ⟨happlies, drafts, hdrafts, draft, hdraft, rfl⟩ := (mem_found_iff hchapter).1 hfound
      exact ⟨⟨chapter, file, draft⟩, ⟨hchapter, hfile, happlies, text, drafts, htext, hdrafts, hdraft⟩, rfl⟩
    · exact absurd hin List.not_mem_nil
  · rintro ⟨⟨chapter, file, draft⟩, ⟨hchapter, hfile, happlies, text, drafts, htext, hdrafts, hdraft⟩, rfl⟩
    refine ⟨file, hfile, ?_⟩
    unfold foundIn
    rw [htext]
    refine List.mem_flatMap.2 ⟨chapter.analyzer, ?_, ?_⟩
    · rw [← Rule.analyzers_catalogue]
      exact List.mem_map_of_mem hchapter
    · exact (mem_found_iff hchapter).2 ⟨happlies, drafts, hdrafts, draft, hdraft, rfl⟩

theorem Among.mem_headings (h : origin.Among read tree files) :
    (origin.chapter.analyzer.id, origin.draft.rule) ∈ Rule.headings := by
  obtain ⟨text, drafts, -, hdrafts, hdraft⟩ := h.draft
  obtain ⟨titles, hnames, hlisted⟩ := Rule.covers_of_mem_catalogue h.chapter _ _ _ _ hdrafts
  have hrule : origin.draft.rule ∈ origin.chapter.rules := by
    rw [← hnames origin.draft.line]
    exact List.mem_map_of_mem (hlisted _ hdraft).title
  exact Rule.mem_headings_iff.2 ⟨_, h.chapter, rfl, hrule⟩

/-- Origins under one rule, in lines of one number, in files whose paths identifiers show alike. -/
structure Alike (origin other : Origin) : Prop where
  analyzer : origin.chapter.analyzer.id = other.chapter.analyzer.id
  rule : origin.draft.rule = other.draft.rule
  line : origin.draft.line = other.draft.line
  path : shown origin.file.relative.toList = shown other.file.relative.toList

/-- Which findings of a run have the same identifier. -/
theorem Among.id_eq_iff (h : origin.Among read tree files) (hother : other.Among read tree files) :
    origin.finding.id = other.finding.id ↔ origin.Alike other := by
  rw [show origin.finding.id = findingId origin.chapter.analyzer.id origin.draft.rule
      origin.file.relative origin.draft.line from rfl,
    show other.finding.id = findingId other.chapter.analyzer.id other.draft.rule
      other.file.relative other.draft.line from rfl,
    Identifier.findingId_eq_iff Rule.distinct_headings h.mem_headings hother.mem_headings]
  exact ⟨fun ⟨hanalyzer, hrule, hline, hpath⟩ => ⟨hanalyzer, hrule, hline, hpath⟩,
    fun h => ⟨h.analyzer, h.rule, h.line, h.path⟩⟩

/-- One rule says one thing about one line of a file. -/
theorem Among.key_eq (hfiles : (files.map (·.relative)).Nodup) (h : origin.Among read tree files)
    (hother : other.Among read tree files) (halike : origin.Alike other)
    (hfile : origin.file.relative = other.file.relative) : origin.finding.key = other.finding.key := by
  have hchapter := Rule.id_injective_catalogue h.chapter hother.chapter halike.analyzer
  have hsame := List.inj_on_of_nodup_map hfiles h.file hother.file hfile
  -- One chapter drafts both findings about one text, so their titles are on one list for the line.
  obtain ⟨text, drafts, htext, hdrafts, hdraft⟩ := h.draft
  obtain ⟨text', drafts', htext', hdrafts', hdraft'⟩ := hother.draft
  rw [← hsame] at htext' hdrafts'
  obtain rfl := Except.ok.inj (htext.symm.trans htext')
  rw [← hchapter] at hdrafts'
  obtain rfl := Except.ok.inj (hdrafts.symm.trans hdrafts')
  obtain ⟨titles, hnames, hlisted⟩ := Rule.covers_of_mem_catalogue h.chapter _ _ _ _ hdrafts
  have hrules : ((titles origin.draft.line).map Prod.fst).Nodup := by
    rw [hnames]
    exact Rule.nodup_rules_of_mem_catalogue _ h.chapter
  have hmem := (hlisted _ hdraft').title
  rw [← halike.line] at hmem
  have htitle := List.inj_on_of_nodup_map hrules (hlisted _ hdraft).title hmem halike.rule
  unfold finding Draft.finding Finding.key
  rw [halike.line, hchapter, hfile, (Prod.mk.inj htitle).2]

/-- An origin whose finding is among those that are kept, raised to the floor of its category. -/
structure Kept (read : SourceReader) (tree : FileTree) (files : List SourceFile)
    (aggregate : Aggregate) (origin : Origin) : Prop extends Among read tree files origin where
  kept : origin.finding.raised ∈ aggregate.findings

variable {aggregate : Aggregate}

theorem exists_kept
    (h : Aggregate.ofFindings (files.flatMap (foundIn read bundledAnalyzers tree)) = .ok aggregate)
    {finding : Finding} (hfinding : finding ∈ aggregate.findings) :
    ∃ origin : Origin, origin.Kept read tree files aggregate ∧ origin.finding.raised = finding := by
  obtain ⟨metrics, -, rfl⟩ := Aggregate.ofFindings_eq_ok.1 h
  obtain ⟨_, hrun, rfl, -⟩ := Aggregate.exists_of_mem_resolved hfinding
  obtain ⟨origin, hamong, rfl⟩ := mem_run_iff.1 hrun
  exact ⟨origin, ⟨hamong, hfinding⟩, rfl⟩

/-- Of one file no two kept findings are under one rule and in one line. -/
theorem Kept.raised_eq (hfiles : (files.map (·.relative)).Nodup)
    (h : Aggregate.ofFindings (files.flatMap (foundIn read bundledAnalyzers tree)) = .ok aggregate)
    (horigin : origin.Kept read tree files aggregate) (hother : other.Kept read tree files aggregate)
    (halike : origin.Alike other) (hfile : origin.file.relative = other.file.relative) :
    origin.finding.raised = other.finding.raised := by
  refine List.inj_on_of_nodup_map (Aggregate.nodup_keys_ofFindings h) horigin.kept hother.kept ?_
  rw [Finding.raised_key, Finding.raised_key]
  exact horigin.key_eq hfiles hother.toAmong halike hfile

end Origin

/-- A baseline has as many identifiers as there are findings, unless findings share one. -/
theorem length_findingIds_iff {timestamp : Int} {metrics : Metrics} {findings : List Finding} :
    (Baseline.ofFindings timestamp metrics findings).findingIds.length = findings.length ↔
      (findings.map Finding.id).Nodup := by
  rw [← Text.length_sortedSet_iff, List.length_map]
  rfl

/-- Two kept findings of a run have the same identifier exactly if they are of one analyzer, under one
rule, in lines of one number, and in files whose paths identifiers show alike; those of one file are
then one finding. So the baseline has as many identifiers as there are findings, unless such findings
are in files with different paths. -/
theorem ids_of_kept {read : SourceReader} {tree : FileTree} {files : List SourceFile}
    (hfiles : (files.map (·.relative)).Nodup) {aggregate : Aggregate}
    (h : Aggregate.ofFindings (files.flatMap (foundIn read bundledAnalyzers tree)) = .ok aggregate)
    (timestamp : Int) :
    (∀ finding ∈ aggregate.findings, ∃ origin : Origin,
      origin.Kept read tree files aggregate ∧ origin.finding.raised = finding) ∧
    (∀ origin other : Origin, origin.Kept read tree files aggregate →
      other.Kept read tree files aggregate →
        (origin.finding.raised.id = other.finding.raised.id ↔ origin.Alike other) ∧
        (origin.Alike other → origin.file.relative = other.file.relative →
          origin.finding.raised = other.finding.raised)) ∧
    ((Baseline.ofFindings timestamp aggregate.metrics aggregate.findings).findingIds.length =
        aggregate.findings.length ↔
      ∀ origin other : Origin, origin.Kept read tree files aggregate →
        other.Kept read tree files aggregate → origin.Alike other →
          origin.file.relative = other.file.relative) := by
  have hids : ∀ origin other : Origin, origin.Kept read tree files aggregate →
      other.Kept read tree files aggregate →
        (origin.finding.raised.id = other.finding.raised.id ↔ origin.Alike other) :=
    fun _ _ horigin hother => horigin.id_eq_iff hother.toAmong
  have hnodup := (Aggregate.nodup_keys_ofFindings h).of_map
  refine ⟨fun _ => Origin.exists_kept h, fun origin other horigin hother =>
    ⟨hids _ _ horigin hother, horigin.raised_eq hfiles h hother⟩, ?_⟩
  rw [length_findingIds_iff, List.nodup_map_iff_inj_on hnodup]
  constructor
  · intro hinj origin other horigin hother halike
    exact congrArg Finding.file (hinj _ horigin.kept _ hother.kept ((hids _ _ horigin hother).2 halike))
  · intro hpaths first hfirst second hsecond hid
    obtain ⟨origin, horigin, rfl⟩ := Origin.exists_kept h hfirst
    obtain ⟨other, hother, rfl⟩ := Origin.exists_kept h hsecond
    have halike := (hids _ _ horigin hother).1 hid
    exact horigin.raised_eq hfiles h hother halike (hpaths _ _ horigin hother halike)

/-! ### Two files that identifiers do not tell apart -/

/-- A directory and a file beside it whose name continues the name of the directory with a hyphen. -/
def besideTree : FileTree where
  root := .directory [("src", .directory [("a", .directory [("B.kt", .file (.text "class B\n") 0)]),
    ("a-B.kt", .file (.text "class B\n") 0)])]
  here := ⟨1, []⟩

def nestedFile : SourceFile :=
  ⟨⟨1, ["src", "a", "B.kt"]⟩, "a/B.kt", 8, Discovery.millisOf 0, Layer.detect "a/B.kt"⟩

def besideFile : SourceFile :=
  ⟨⟨1, ["src", "a-B.kt"]⟩, "a-B.kt", 8, Discovery.millisOf 0, Layer.detect "a-B.kt"⟩

theorem readSource_beside {file : SourceFile} (h : file = nestedFile ∨ file = besideFile) :
    readSource besideTree file = .ok "class B\n".toList := by
  have hnode : besideTree.node file.path = .ok (.file (.text "class B\n") 0) := by
    rcases h with rfl | rfl
    · exact FileTree.node_of_at? (by decide) (by decide) (fun _ h => by cases h) rfl
    · exact FileTree.node_of_at? (by decide) (by decide) (fun _ h => by cases h) rfl
  unfold readSource FileTree.readText FileTree.content
  rw [hnode]
  rfl

theorem ofFindings_beside : ∃ aggregate, Aggregate.ofFindings
      ([nestedFile, besideFile].flatMap (foundIn readSource bundledAnalyzers besideTree)) =
        .ok aggregate ∧
    aggregate.findings.map (fun finding => (finding.file, finding.id)) =
      [("a/B.kt", "documentation-missing-kdoc-a-B.kt-1"),
        ("a-B.kt", "naming-file-name-a-B.kt-1"), ("a-B.kt", "documentation-missing-kdoc-a-B.kt-1")] := by
  have hfound : ∀ file, file = nestedFile ∨ file = besideFile →
      foundIn readSource bundledAnalyzers besideTree file =
        bundledAnalyzers.flatMap (found besideTree.hasFile file "class B\n".toList) := by
    intro file hfile
    rw [foundIn, readSource_beside hfile]
  rw [List.flatMap_cons, List.flatMap_singleton, hfound _ (.inl rfl), hfound _ (.inr rfl)]
  refine Outcome.map_eq_ok.1 ?_
  decide +kernel

theorem exists_shared_beside : ∃ aggregate, Aggregate.ofFindings
      ([nestedFile, besideFile].flatMap (foundIn readSource bundledAnalyzers besideTree)) =
        .ok aggregate ∧
    ∃ first ∈ aggregate.findings, ∃ second ∈ aggregate.findings,
      first.id = second.id ∧ first.file ≠ second.file := by
  obtain ⟨aggregate, h, hfindings⟩ := ofFindings_beside
  have hmem : ∀ file, file = "a/B.kt" ∨ file = "a-B.kt" → ∃ finding ∈ aggregate.findings,
      (finding.file, finding.id) = (file, "documentation-missing-kdoc-a-B.kt-1") := by
    rintro file (rfl | rfl)
    · exact List.mem_map.1 (hfindings ▸ List.mem_cons_self)
    · exact List.mem_map.1 (hfindings ▸ List.mem_of_mem_getLast? rfl)
  obtain ⟨first, hfirst, hnested⟩ := hmem _ (.inl rfl)
  obtain ⟨second, hsecond, hbeside⟩ := hmem _ (.inr rfl)
  obtain ⟨hfile, hid⟩ := Prod.mk.inj hnested
  obtain ⟨hfile', hid'⟩ := Prod.mk.inj hbeside
  refine ⟨aggregate, h, first, hfirst, second, hsecond, hid.trans hid'.symm, ?_⟩
  rw [hfile, hfile']
  decide

theorem ids_of_kept_beside : ∃ aggregate, Aggregate.ofFindings
      ([nestedFile, besideFile].flatMap (foundIn readSource bundledAnalyzers besideTree)) =
        .ok aggregate ∧
    (∃ origin other : Origin, origin.Alike other ∧
      origin.Kept readSource besideTree [nestedFile, besideFile] aggregate ∧
      other.Kept readSource besideTree [nestedFile, besideFile] aggregate ∧
      origin.file.relative ≠ other.file.relative) ∧
    (Baseline.ofFindings 0 aggregate.metrics aggregate.findings).findingIds.length ≠
      aggregate.findings.length := by
  obtain ⟨aggregate, h, first, hfirst, second, hsecond, hid, hfile⟩ := exists_shared_beside
  obtain ⟨horigins, hids, hlength⟩ := ids_of_kept (by decide) h 0
  obtain ⟨origin, horigin, rfl⟩ := horigins first hfirst
  obtain ⟨other, hother, rfl⟩ := horigins second hsecond
  have halike := (hids _ _ horigin hother).1.1 hid
  exact ⟨aggregate, h, ⟨origin, other, halike, horigin, hother, hfile⟩,
    fun heq => hfile (hlength.1 heq _ _ horigin hother halike)⟩

/-- A slash and a hyphen look the same in identifiers. The two files have different paths, and yet two
findings are kept that share an identifier, so that the baseline has one less. -/
theorem shared_id_beside : ([nestedFile, besideFile].map (·.relative)).Nodup ∧
    ∃ aggregate, Aggregate.ofFindings
        ([nestedFile, besideFile].flatMap (foundIn readSource bundledAnalyzers besideTree)) =
          .ok aggregate ∧
      (∃ first ∈ aggregate.findings, ∃ second ∈ aggregate.findings,
        first.id = second.id ∧ first.file ≠ second.file) ∧
      (Baseline.ofFindings 0 aggregate.metrics aggregate.findings).findingIds.length ≠
        aggregate.findings.length := by
  obtain ⟨aggregate, h, first, hfirst, second, hsecond, hid, hfile⟩ := exists_shared_beside
  refine ⟨by decide, aggregate, h, ⟨first, hfirst, second, hsecond, hid, hfile⟩, fun hlength => hfile ?_⟩
  have hnodup := length_findingIds_iff.1 hlength
  exact congrArg Finding.file (List.inj_on_of_nodup_map hnodup hfirst hsecond hid)

end KotlinAudit.Audit
