import KotlinAudit.Proofs.Aggregation.Resolved
import KotlinAudit.Proofs.Audit.Request
import KotlinAudit.Proofs.Finding.Identifier
import KotlinAudit.Proofs.Linter.Run
import KotlinAudit.Proofs.Metrics.Regular
import KotlinAudit.Proofs.Registry
import KotlinAudit.Proofs.Stable

/-! What bundled analyzers contribute to the findings of a run. Every finding tells by its file and
category where it comes from, so that what is kept of the findings of an analyzer in a file does not
depend on the other files and analyzers. With those of the external linter they are all that a result is made
of, and its counts tell of every finding that was severe enough when it was collected. -/
namespace KotlinAudit

namespace Audit

variable {audit : Audit} {tree : FileTree}

/-! ### The findings of one analyzer in one file -/

/-- What an analyzer finds in a file, as far as it can be read. -/
abbrev foundBy (audit : Audit) (tree : FileTree) (file : SourceFile) (analyzer : Analyzer) :
    List Finding :=
  foundIn audit.read [analyzer] tree file

theorem foundIn_eq (read : SourceReader) (analyzers : List Analyzer) (tree : FileTree)
    (file : SourceFile) :
    foundIn read analyzers tree file =
      analyzers.flatMap fun analyzer => foundIn read [analyzer] tree file := by
  unfold foundIn
  cases read tree file with
  | error failure => simp
  | ok text => simp

/-- A bundled analyzer reports under its own name and about the file that it looks at. -/
theorem of_mem_foundBy {analyzer : Analyzer} (hanalyzer : analyzer ∈ bundledAnalyzers)
    {file : SourceFile} {finding : Finding} (h : finding ∈ audit.foundBy tree file analyzer) :
    ∃ draft : Draft, finding = draft.finding analyzer.id analyzer.category file := by
  unfold foundBy foundIn at h
  cases htext : audit.read tree file with
  | error failure =>
    rw [htext] at h
    cases h
  | ok text =>
    rw [htext] at h
    dsimp only at h
    rw [List.flatMap_singleton, found] at h
    split at h
    · cases hanalyze : analyzer.analyze tree.hasFile file text with
      | error failure =>
        rw [hanalyze] at h
        cases h
      | ok findings =>
        rw [hanalyze] at h
        exact attributes_of_mem_bundled hanalyzer _ _ _ _ hanalyze finding h
    · cases h
    · cases h

/-- The findings about a file that an analyzer has reported. -/
def about (findings : List Finding) (relative : String) (analyzer : Analyzer) : List Finding :=
  findings.filter fun finding => finding.file = relative ∧ finding.analyzer = analyzer.id

/-- The issues about a file in the category of an analyzer. -/
def isAbout (relative : String) (analyzer : Analyzer) (key : Finding.Key) : Bool :=
  key.file = relative ∧ key.category = analyzer.category

/-- A finding that a bundled analyzer has made. -/
def Bundled (finding : Finding) : Prop :=
  ∃ analyzer ∈ bundledAnalyzers, finding.analyzer = analyzer.id ∧
    finding.category = analyzer.category

theorem bundled_of_mem_yield {analyzers : List Analyzer} (hsub : analyzers ⊆ bundledAnalyzers)
    {files : List SourceFile} {finding : Finding}
    (h : finding ∈ audit.yield tree analyzers files) : Bundled finding := by
  obtain ⟨file, -, hfound⟩ := List.mem_flatMap.1 h
  rw [foundIn_eq] at hfound
  obtain ⟨analyzer, hanalyzer, hfinding⟩ := List.mem_flatMap.1 hfound
  obtain ⟨draft, rfl⟩ := of_mem_foundBy (hsub hanalyzer) hfinding
  exact ⟨analyzer, hsub hanalyzer, rfl, rfl⟩

theorem bundled_of_mem_resolved {findings : List Finding} (h : ∀ finding ∈ findings, Bundled finding)
    {result : Finding} (hresult : result ∈ Aggregate.resolved findings) : Bundled result := by
  obtain ⟨finding, hfinding, rfl, -⟩ := Aggregate.exists_of_mem_resolved hresult
  exact h finding hfinding

/-- The identifiers of findings from bundled analyzers do not break lines. -/
theorem unbroken_of_mem_resolved {analyzers : List Analyzer}
    (hsub : analyzers ⊆ bundledAnalyzers) {files : List SourceFile} {finding : Finding}
    (h : finding ∈ Aggregate.resolved (audit.yield tree analyzers files)) :
    Text.Unbroken finding.id.toList := by
  obtain ⟨origin, horigin, rfl, -⟩ := Aggregate.exists_of_mem_resolved h
  obtain ⟨file, -, hfound⟩ := List.mem_flatMap.1 horigin
  rw [foundIn_eq] at hfound
  obtain ⟨analyzer, hanalyzer, hin⟩ := List.mem_flatMap.1 hfound
  obtain ⟨draft, rfl⟩ := of_mem_foundBy (hsub hanalyzer) hin
  exact unbroken_findingId _ _ _ _

/-- By the category of a finding it can be told which analyzer has reported it. -/
theorem analyzer_eq_iff {finding : Finding} (h : Bundled finding) {analyzer : Analyzer}
    (hanalyzer : analyzer ∈ bundledAnalyzers) :
    finding.analyzer = analyzer.id ↔ finding.category = analyzer.category := by
  obtain ⟨origin, horigin, hid, hcategory⟩ := h
  rw [hid, hcategory]
  constructor
  · intro heq
    rw [id_injective_bundled horigin hanalyzer heq]
  · intro heq
    rw [category_injective_bundled horigin hanalyzer heq]

theorem about_eq {findings : List Finding} (h : ∀ finding ∈ findings, Bundled finding)
    {analyzer : Analyzer} (hanalyzer : analyzer ∈ bundledAnalyzers) (relative : String) :
    about findings relative analyzer = findings.filter (isAbout relative analyzer ·.key) := by
  refine List.filter_congr fun finding hfinding => ?_
  exact decide_eq_decide.2
    (and_congr_right fun _ => analyzer_eq_iff (h finding hfinding) hanalyzer)

/-- What is kept about a file from an analyzer is what is kept of its findings there alone. -/
theorem about_resolved {findings : List Finding} (h : ∀ finding ∈ findings, Bundled finding)
    {analyzer : Analyzer} (hanalyzer : analyzer ∈ bundledAnalyzers) (relative : String) :
    about (Aggregate.resolved findings) relative analyzer =
      Aggregate.resolved (findings.filter (isAbout relative analyzer ·.key)) := by
  rw [about_eq (fun _ => bundled_of_mem_resolved h) hanalyzer, Aggregate.resolved_filter]

/-- Among the findings in one file those of an analyzer are what it finds there. -/
theorem filter_foundIn {analyzers : List Analyzer} (hsub : analyzers ⊆ bundledAnalyzers)
    (hnodup : analyzers.Nodup) {analyzer : Analyzer} (hanalyzer : analyzer ∈ analyzers)
    (file : SourceFile) :
    (foundIn audit.read analyzers tree file).filter (isAbout file.relative analyzer ·.key) =
      audit.foundBy tree file analyzer := by
  rw [foundIn_eq, List.filter_flatMap]
  induction analyzers with
  | nil => cases hanalyzer
  | cons first rest ih =>
    obtain ⟨hfirst, hrest⟩ := List.cons_subset.1 hsub
    obtain ⟨hnew, hothers⟩ := List.nodup_cons.1 hnodup
    have hpart : ∀ other ∈ bundledAnalyzers, ∀ finding ∈ audit.foundBy tree file other,
        isAbout file.relative analyzer finding.key ↔ other = analyzer := by
      intro other hother finding hfinding
      obtain ⟨draft, rfl⟩ := of_mem_foundBy hother hfinding
      simp only [isAbout, Finding.key, Draft.finding, true_and, decide_eq_true_eq]
      exact ⟨category_injective_bundled hother (hsub hanalyzer), fun h => h ▸ rfl⟩
    rw [List.flatMap_cons]
    rcases List.mem_cons.1 hanalyzer with rfl | hlater
    · have hnone : rest.flatMap (fun other => (audit.foundBy tree file other).filter
          (isAbout file.relative analyzer ·.key)) = [] := by
        rw [List.flatMap_eq_nil_iff]
        intro other hother
        rw [List.filter_eq_nil_iff]
        intro finding hfinding habout
        exact hnew ((hpart other (hrest hother) finding hfinding).1 habout ▸ hother)
      rw [hnone, List.append_nil, List.filter_eq_self]
      exact fun finding hfinding => (hpart analyzer hfirst finding hfinding).2 rfl
    · have hnone : (audit.foundBy tree file first).filter
          (isAbout file.relative analyzer ·.key) = [] := by
        rw [List.filter_eq_nil_iff]
        intro finding hfinding habout
        exact hnew ((hpart first hfirst finding hfinding).1 habout ▸ hlater)
      rw [hnone, List.nil_append]
      exact ih hrest hothers hlater

/-- In other files there is nothing about a file. -/
theorem filter_foundIn_of_ne {analyzers : List Analyzer} (hsub : analyzers ⊆ bundledAnalyzers)
    (analyzer : Analyzer) {file : SourceFile} {relative : String} (h : file.relative ≠ relative) :
    (foundIn audit.read analyzers tree file).filter (isAbout relative analyzer ·.key) = [] := by
  rw [foundIn_eq, List.filter_eq_nil_iff]
  intro finding hfinding habout
  obtain ⟨other, hother, hfound⟩ := List.mem_flatMap.1 hfinding
  obtain ⟨draft, rfl⟩ := of_mem_foundBy (hsub hother) hfound
  exact h (of_decide_eq_true habout).1

/-- The findings about a file from an analyzer are those that it has found there, as often as the
file comes up. -/
theorem filter_yield {analyzers : List Analyzer} (hsub : analyzers ⊆ bundledAnalyzers)
    (hnodup : analyzers.Nodup) {analyzer : Analyzer} (hanalyzer : analyzer ∈ analyzers)
    {files : List SourceFile} {file : SourceFile}
    (hunique : ∀ other ∈ files, other.relative = file.relative → other = file) :
    (audit.yield tree analyzers files).filter (isAbout file.relative analyzer ·.key) =
      (List.replicate (files.count file) (audit.foundBy tree file analyzer)).flatten := by
  induction files with
  | nil => rfl
  | cons first rest ih =>
    rw [List.forall_mem_cons] at hunique
    rw [yield, List.flatMap_cons, ← yield, List.filter_append, ih hunique.2, List.count_cons]
    by_cases hsame : first.relative = file.relative
    · rw [hunique.1 hsame, filter_foundIn hsub hnodup hanalyzer, beq_self_eq_true, if_pos rfl,
        List.replicate_succ, List.flatten_cons]
    · have hne : (first == file) = false :=
        beq_eq_false_iff_ne.2 fun heq => hsame (heq ▸ rfl)
      rw [filter_foundIn_of_ne hsub analyzer hsame, hne, List.nil_append]
      rfl

theorem resolved_replicate {count : Nat} (h : 0 < count) (findings : List Finding) :
    Aggregate.resolved ((List.replicate count findings).flatten) =
      Aggregate.resolved findings := by
  obtain ⟨more, rfl⟩ := Nat.exists_eq_add_of_lt h
  rw [Nat.zero_add, List.replicate_succ, List.flatten_cons]
  refine Aggregate.resolved_append_of_subset fun finding hfinding => ?_
  obtain ⟨copy, hcopy, hin⟩ := List.mem_flatten.1 hfinding
  exact List.eq_of_mem_replicate hcopy ▸ hin

/-- What a run keeps about a file from an analyzer is what the analyzer alone finds there, put
together. -/
theorem about_resolved_yield {analyzers : List Analyzer} (hsub : analyzers ⊆ bundledAnalyzers)
    (hnodup : analyzers.Nodup) {analyzer : Analyzer} (hanalyzer : analyzer ∈ analyzers)
    {files : List SourceFile} {file : SourceFile} (hfile : file ∈ files)
    (hunique : ∀ other ∈ files, other.relative = file.relative → other = file) :
    about (Aggregate.resolved (audit.yield tree analyzers files)) file.relative analyzer =
      Aggregate.resolved (audit.foundBy tree file analyzer) := by
  rw [about_resolved (fun _ => bundled_of_mem_yield hsub) (hsub hanalyzer),
    filter_yield hsub hnodup hanalyzer hunique,
    resolved_replicate (List.count_pos_iff.2 hfile)]

/-! ### Some analyzers out of all -/

/-- Some of the analyzers find the part of all findings that is theirs. -/
theorem yield_filter (ids : List String) (tree : FileTree) (files : List SourceFile) :
    audit.yield tree (bundledAnalyzers.filter (ids.contains ·.id)) files =
      (audit.yield tree bundledAnalyzers files).filter (ids.contains ·.analyzer) := by
  rw [yield, yield, List.filter_flatMap]
  refine List.flatMap_congr fun file _ => ?_
  rw [foundIn_eq, foundIn_eq audit.read bundledAnalyzers, List.filter_flatMap]
  refine Stable.flatMap_filter fun analyzer hanalyzer finding hfinding => ?_
  obtain ⟨draft, rfl⟩ := of_mem_foundBy hanalyzer hfinding
  rfl

/-- The issues in the categories of the analyzers of some identifiers. -/
def isOf (ids : List String) (key : Finding.Key) : Bool :=
  bundledAnalyzers.any fun analyzer =>
    ids.contains analyzer.id && decide (key.category = analyzer.category)

theorem isOf_eq {finding : Finding} (h : Bundled finding) (ids : List String) :
    isOf ids finding.key = ids.contains finding.analyzer := by
  obtain ⟨origin, horigin, hid, hcategory⟩ := h
  rw [Bool.eq_iff_iff, isOf, List.any_eq_true, hid]
  constructor
  · rintro ⟨analyzer, hanalyzer, hboth⟩
    rw [Bool.and_eq_true, decide_eq_true_eq] at hboth
    rw [category_injective_bundled horigin hanalyzer (hcategory.symm.trans hboth.2)]
    exact hboth.1
  · intro hcontains
    refine ⟨origin, horigin, ?_⟩
    rw [hcontains, Bool.true_and, decide_eq_true_eq]
    exact hcategory

theorem resolved_filter_of_ids {findings : List Finding}
    (h : ∀ finding ∈ findings, Bundled finding) (ids : List String) :
    Aggregate.resolved (findings.filter (ids.contains ·.analyzer)) =
      (Aggregate.resolved findings).filter (ids.contains ·.analyzer) := by
  have hbefore : findings.filter (ids.contains ·.analyzer) = findings.filter (isOf ids ·.key) :=
    List.filter_congr fun finding hfinding => (isOf_eq (h finding hfinding) ids).symm
  have hafter : (Aggregate.resolved findings).filter (ids.contains ·.analyzer) =
      (Aggregate.resolved findings).filter (isOf ids ·.key) :=
    List.filter_congr fun finding hfinding =>
      (isOf_eq (bundled_of_mem_resolved h hfinding) ids).symm
  rw [hbefore, hafter, Aggregate.resolved_filter]

/-! ### The analyzers of a request -/

theorem analyzersFor_spec (h : audit.registry = .bundled) (request : Request) :
    audit.analyzersFor request ⊆ bundledAnalyzers ∧ (audit.analyzersFor request).Nodup := by
  have hconfigured : audit.configured ⊆ bundledAnalyzers ∧ audit.configured.Nodup := by
    unfold configured
    rw [h]
    split
    · exact ⟨List.Subset.refl _, Registry.bundled.nodup_analyzers⟩
    · exact ⟨fun analyzer hmem => (Registry.mem_select.1 hmem).1, Registry.nodup_select _ _⟩
  cases request with
  | filtered paths ids =>
    simp only [analyzersFor, h]
    exact ⟨fun analyzer hmem => (Registry.mem_select.1 hmem).1, Registry.nodup_select _ _⟩
  | full => exact hconfigured
  | incremental paths => exact hconfigured

/-! ### Trees that show the same sources

The same files are found in them, with the same findings. -/

open Rule.TestCoverage (expectedTests)

variable {audit : Audit} {before after : FileTree}

/-- A file that an audit counts as a source, at an absolute path. -/
structure Concerns (audit : Audit) (file : SourceFile) : Prop where
  absolute : file.path.isAbsolute
  source : audit.config.selection.isSource file.extension

/-- The second tree shows an audit the sources of the first one: a scan that comes to an end finds the same
files again, and every source is the same file with the same text, or cannot be read. -/
structure SameSources (audit : Audit) (before after : FileTree) : Prop where
  scanner : audit.scannerIn before = audit.scannerIn after
  files : ∀ scanner found, audit.scannerIn before = .ok scanner →
    sighted scanner before none = .ok found → sighted scanner after none = .ok found
  source : ∀ scanner path, audit.scannerIn before = .ok scanner → path.isAbsolute →
    audit.config.selection.isSource path.extension →
      (scanner.describe before path).source? = (scanner.describe after path).source?
  text : ∀ file, audit.Concerns file →
    (audit.read before file).toOption = (audit.read after file).toOption
  tests : ∀ file, ∀ path ∈ expectedTests file, before.hasFile path = after.hasFile path

theorem SameSources.refl (audit : Audit) (tree : FileTree) : audit.SameSources tree tree where
  scanner := rfl
  files := fun _ _ _ hfound => hfound
  source := fun _ _ _ _ _ => rfl
  text := fun _ _ => rfl
  tests := fun _ _ _ => rfl

theorem SameSources.trans {between : FileTree} (h : audit.SameSources before between)
    (h' : audit.SameSources between after) : audit.SameSources before after where
  scanner := h.scanner.trans h'.scanner
  files := fun scanner found hscanner hfound =>
    h'.files scanner found (h.scanner ▸ hscanner) (h.files scanner found hscanner hfound)
  source := fun scanner path hscanner hpath hsource =>
    (h.source scanner path hscanner hpath hsource).trans
      (h'.source scanner path (h.scanner ▸ hscanner) hpath hsource)
  text := fun file hfile => (h.text file hfile).trans (h'.text file hfile)
  tests := fun file path hpath => (h.tests file path hpath).trans (h'.tests file path hpath)

theorem foundBy_congr (hsame : audit.SameSources before after) {analyzer : Analyzer}
    (hanalyzer : analyzer ∈ bundledAnalyzers) {file : SourceFile} (hfile : audit.Concerns file) :
    audit.foundBy before file analyzer = audit.foundBy after file analyzer := by
  have htext := hsame.text file hfile
  unfold foundBy foundIn
  cases hbefore : audit.read before file with
  | error failure =>
    cases hafter : audit.read after file with
    | error other => rfl
    | ok text =>
      rw [hbefore, hafter] at htext
      cases htext
  | ok text =>
    cases hafter : audit.read after file with
    | error other =>
      rw [hbefore, hafter] at htext
      cases htext
    | ok other =>
      rw [hbefore, hafter] at htext
      cases htext
      simp only [List.flatMap_singleton, found,
        asksForTests_of_mem_bundled hanalyzer _ _ file text (hsame.tests file)]

theorem filesFor_congr (hsame : audit.SameSources before after) {files : List SourceFile}
    (h : audit.filesFor before none = .ok files) : audit.filesFor after none = .ok files := by
  obtain ⟨scanner, found, hscanner, hfound, hfiles⟩ := filesFor_eq_ok.1 h
  exact filesFor_eq_ok.2 ⟨scanner, found, hsame.scanner ▸ hscanner,
    hsame.files scanner found hscanner hfound, hfiles⟩

theorem yield_congr (hsame : audit.SameSources before after) {analyzers : List Analyzer}
    (hsub : analyzers ⊆ bundledAnalyzers) {files : List SourceFile}
    (hfiles : ∀ file ∈ files, audit.Concerns file) :
    audit.yield before analyzers files = audit.yield after analyzers files := by
  refine List.flatMap_congr fun file hfile => ?_
  rw [foundIn_eq, foundIn_eq audit.read analyzers after]
  exact List.flatMap_congr fun analyzer hanalyzer =>
    foundBy_congr hsame (hsub hanalyzer) (hfiles file hfile)

end Audit

/-! ### The findings that a run collects -/

open Discovery (DiscoveryError)

/-- An external linter whose answers depend on nothing but the tree. -/
def ExternalLinter.Steady (linter : ExternalLinter) : Prop :=
  ∀ (targets : List Path) (config : Path) {workspace other : Workspace}, workspace.tree = other.tree →
    ((linter targets config).run workspace).1 = ((linter targets config).run other).1

theorem Linter.Setup.steady_external (setup : Linter.Setup) (runner : Linter.Runner) :
    (setup.external runner).Steady := by
  intro targets config workspace other h
  rw [run_external_fst, run_external_fst, h]

namespace Aggregate

theorem eq_critical_of_rank_le {priority : Priority}
    (h : Priority.critical.rank ≤ priority.rank) : priority = .critical := by
  cases priority <;> simp [Priority.rank] at h ⊢

/-- Raised to the floor of their category all findings about security are critical, and no others
than those that have been critical before. -/
theorem raised_eq_critical_iff {finding : Finding} :
    finding.raised.priority = .critical ↔
      finding.priority = .critical ∨ finding.category = .security := by
  have hfloor : finding.category.floor = .critical ↔ finding.category = .security := by
    cases finding.category <;> simp [Category.floor]
  rw [← hfloor]
  have hrank := Finding.rank_raised finding
  constructor
  · intro h
    rw [h] at hrank
    rcases le_max_iff.1 hrank.le with hleft | hright
    · exact .inl (eq_critical_of_rank_le hleft)
    · exact .inr (eq_critical_of_rank_le hright)
  · rintro (h | h)
    · rw [h] at hrank
      exact eq_critical_of_rank_le (hrank ▸ le_max_left _ _)
    · rw [h] at hrank
      exact eq_critical_of_rank_le (hrank ▸ le_max_right _ _)

/-- An issue is critical in the end if one of its findings was critical or of a category in which
everything is. -/
theorem exists_critical_iff {findings : List Finding} :
    (∃ result ∈ resolved findings, result.priority = .critical) ↔
      ∃ finding ∈ findings, finding.priority = .critical ∨ finding.category = .security := by
  constructor
  · rintro ⟨result, hresult, hcritical⟩
    obtain ⟨finding, hfinding, rfl, -⟩ := exists_of_mem_resolved hresult
    exact ⟨finding, hfinding, raised_eq_critical_iff.1 hcritical⟩
  · rintro ⟨finding, hfinding, hcritical⟩
    -- The finding's issue is there, and what stands for it is at least as severe.
    have hkey : finding.key ∈ (resolved findings).map Finding.key := by
      rw [map_key_resolved]
      exact mem_keys.2 ⟨finding, hfinding, rfl⟩
    obtain ⟨result, hresult, hsame⟩ := List.mem_map.1 hkey
    obtain ⟨-, -, -, hmost⟩ := exists_of_mem_resolved hresult
    have hrank := hmost finding hfinding hsame.symm
    rw [raised_eq_critical_iff.2 hcritical] at hrank
    exact ⟨result, hresult, eq_critical_of_rank_le hrank⟩

end Aggregate

namespace Audit

variable {audit : Audit} {request : Request} {workspace after : Workspace} {result : Result}

/-- The findings that are collected for a request, as the external linter answers at the start. -/
def collected (audit : Audit) (request : Request) (workspace : Workspace) :
    Except DiscoveryError (List Finding) :=
  if audit.isIdle request then .ok []
  else do
    let scanner ← audit.scannerIn workspace.tree
    let files ← audit.filesFor workspace.tree request.targets
    return audit.yield workspace.tree (audit.analyzersFor request) files ++
      (audit.lintAnswer (audit.lintTargetsFor request scanner files) workspace).toOption.getD []

theorem lintAnswer_congr (hsteady : ∀ linter, audit.linter = some linter → linter.Steady)
    {other : Workspace} (h : workspace.tree = other.tree) (targets : List Path) :
    audit.lintAnswer targets workspace = audit.lintAnswer targets other := by
  unfold lintAnswer
  cases hlinter : audit.linter with
  | none => rfl
  | some linter =>
    cases targets with
    | nil => rfl
    | cons target rest => exact hsteady linter hlinter _ _ h

/-- What is gathered for a plan, as the external linter answers in another workspace of the tree. -/
theorem run_gather_steady (hsteady : ∀ linter, audit.linter = some linter → linter.Steady)
    {start : Workspace} (h : start.tree = workspace.tree) (plan : Plan) :
    ((audit.gather plan).run start).1 =
      audit.yield workspace.tree plan.analyzers plan.files ++
        (audit.lintAnswer plan.lintTargets workspace).toOption.getD [] := by
  obtain ⟨notices, phases, _, hgather⟩ := audit.run_gather plan start
  have hlint : audit.lintAnswer plan.lintTargets { start with notices := notices, phases := phases } =
      audit.lintAnswer plan.lintTargets workspace := by
    apply lintAnswer_congr hsteady
    exact h
  rw [hgather, hlint, h]
  rfl

/-- The result of a run that completes is what has been collected, put together. -/
theorem collected_of_perform (hsteady : ∀ linter, audit.linter = some linter → linter.Steady)
    (h : (audit.perform request).run.run workspace = (.ok result, after)) :
    ∃ raw, audit.collected request workspace = .ok raw ∧
      result.findings = Aggregate.resolved raw ∧
      ∀ priority, result.metrics.byPriority.get priority =
        ((Aggregate.resolved raw).countP (·.priority == priority) : Nat) := by
  unfold collected
  rcases run_perform_carries h with ⟨scanner, files, hbusy, hscanner, hfiles, said, hexecute⟩ | hnothing
  · have hstart : (announced (audit.planFor request scanner files)
        { workspace with notices := said }).tree = workspace.tree := rfl
    rw [run_execute, run_gather_steady hsteady hstart] at hexecute
    obtain ⟨aggregate, path, -, haggregate, -, rfl⟩ := run_conclude_eq_ok hexecute
    obtain ⟨metrics, hmetrics, rfl⟩ := Aggregate.ofFindings_eq_ok.1 haggregate
    rw [hbusy, hscanner, hfiles]
    exact ⟨_, rfl, rfl, Metrics.byPriority_get hmetrics⟩
  · obtain ⟨-, hidle, rfl, -⟩ := hnothing
    rw [hidle]
    exact ⟨[], rfl, rfl, fun priority => rfl⟩

end Audit
end KotlinAudit
