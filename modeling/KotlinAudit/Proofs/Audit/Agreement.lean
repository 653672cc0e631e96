import KotlinAudit.Proofs.Audit.Contribution
import KotlinAudit.Proofs.Audit.Delivery
import KotlinAudit.Proofs.Audit.Footprint
import KotlinAudit.Proofs.Audit.Progress
import KotlinAudit.Proofs.Discovery.Pruning

/-! Runs that see the same sources agree about every file and analyzer that take part in both. What a run
writes itself shows it no other sources, so that runs one after the other agree. -/
namespace KotlinAudit.Audit

open Discovery (Scanner)
open FileTree (Edit)
open KotlinAudit.Path (ProperName)
open Rule.TestCoverage (expectedTests testName)

variable {audit : Audit} {tree : FileTree} {request : Request} {result : Result}

/-! ### Files and analyzers of a request -/

/-- An audit with all bundled analyzers and nothing else. -/
structure Plain (audit : Audit) : Prop where
  registry : audit.registry = .bundled
  all : audit.config.execution.analyzers = []
  linter : audit.linter = none
  root : audit.config.root.Proper

theorem scannerIn_eq_ok {scanner : Scanner} (h : audit.scannerIn tree = .ok scanner) :
    scanner.selection = audit.config.selection ∧ tree.resolve audit.config.root = .ok scanner.root := by
  unfold scannerIn Scanner.ofRoot at h
  cases hresolve : tree.resolve audit.config.root with
  | error error =>
    rw [hresolve] at h
    cases h
  | ok root =>
    rw [hresolve] at h
    cases h
    exact ⟨rfl, rfl⟩

theorem scannerIn_spec (haudit : audit.Plain) (htree : tree.Proper) {scanner : Scanner}
    (h : audit.scannerIn tree = .ok scanner) : scanner.selection = audit.config.selection ∧
      scanner.root.Proper ∧ scanner.root.slashes = 1 := by
  obtain ⟨hselection, hresolve⟩ := scannerIn_eq_ok h
  exact ⟨hselection, htree.resolve haudit.root hresolve⟩

theorem sees_sighted {scanner : Scanner} (htree : tree.Proper) (hroot : scanner.root.Proper)
    (hslashes : scanner.root.slashes = 1) {targets : Option (List Path)}
    (htargets : ∀ path ∈ targets.getD [], path.Proper) {files : List SourceFile}
    (h : sighted scanner tree targets = .ok files) : ∀ file ∈ files, scanner.Sees tree file := by
  cases targets with
  | none =>
    obtain ⟨found, hfound, rfl⟩ := Outcome.map_eq_ok.1 h
    exact Scanner.sees_scanAt htree hroot hslashes hfound
  | some paths =>
    exact Scanner.sees_targetsFrom htree hroot htargets
      (fun file hfile => absurd hfile List.not_mem_nil) h

/-- All files of a request are seen. -/
theorem sees_filesFor (haudit : audit.Plain) (htree : tree.Proper) {targets : Option (List Path)}
    (htargets : ∀ path ∈ targets.getD [], path.Proper) {files : List SourceFile}
    (h : audit.filesFor tree targets = .ok files) :
    ∃ scanner, audit.scannerIn tree = .ok scanner ∧
      scanner.selection = audit.config.selection ∧ ∀ file ∈ files, scanner.Sees tree file := by
  obtain ⟨scanner, found, hscanner, hfound, hfiles⟩ := filesFor_eq_ok.1 h
  obtain ⟨hselection, hroot, hslashes⟩ := scannerIn_spec haudit htree hscanner
  refine ⟨scanner, hscanner, hselection, fun file hfile => ?_⟩
  have hsub : files.Sublist found := by
    cases hfilter : scanner.filter found with
    | error error =>
      rw [hfilter] at hfiles
      cases hfiles
    | ok kept =>
      rw [hfilter] at hfiles
      cases hfiles
      exact Outcome.sublist_of_filterM hfilter
  exact sees_sighted htree hroot hslashes htargets hfound file (hsub.subset hfile)

/-- A file and an analyzer that are part of a run. -/
structure TakesPart (audit : Audit) (tree : FileTree) (request : Request) (relative : String)
    (analyzer : Analyzer) : Prop where
  analyzer : analyzer ∈ audit.analyzersFor request
  file : ∃ files, audit.filesFor tree request.targets = .ok files ∧
    ∃ file ∈ files, file.relative = relative

variable {workspace later : Workspace}

/-- The findings of a run that completes, and how its metrics are made of them if any analyzer was
asked for. -/
theorem findings_of_perform (haudit : audit.Plain)
    (h : (audit.perform request).run.run workspace = (.ok result, later)) :
    (audit.analyzersFor request = [] ∧ result.findings = []) ∨
      ∃ files, audit.filesFor workspace.tree request.targets = .ok files ∧
        result.findings = Aggregate.resolved
          (audit.yield workspace.tree (audit.analyzersFor request) files) ∧
        Metrics.ofFindings result.findings = .ok result.metrics := by
  rcases run_perform_eq_ok h with ⟨files, hfiles, hexecutes⟩ | ⟨-, hnone, rfl, -⟩
  · exact .inr ⟨files, hfiles, findings_of_executes haudit.linter hexecutes⟩
  · exact .inl ⟨hnone, rfl⟩

/-- What a run keeps about a file from an analyzer, where both take part in it. -/
theorem exists_about_eq (haudit : audit.Plain) (htree : workspace.tree.Proper)
    (htargets : ∀ path ∈ request.targets.getD [], path.Proper)
    (h : (audit.perform request).run.run workspace = (.ok result, later)) {relative : String}
    {analyzer : Analyzer} (hpart : audit.TakesPart workspace.tree request relative analyzer) :
    ∃ scanner file, audit.scannerIn workspace.tree = .ok scanner ∧
      scanner.selection = audit.config.selection ∧ scanner.Sees workspace.tree file ∧
      file.relative = relative ∧ about result.findings relative analyzer =
        Aggregate.resolved (audit.foundBy workspace.tree file analyzer) := by
  obtain ⟨files, hfiles, file, hfile, hrelative⟩ := hpart.file
  obtain ⟨scanner, hscanner, hselection, hsees⟩ := sees_filesFor haudit htree htargets hfiles
  refine ⟨scanner, file, hscanner, hselection, hsees file hfile, hrelative, ?_⟩
  rcases findings_of_perform haudit h with ⟨hnone, -⟩ | ⟨all, hall, hfindings, -⟩
  · exact absurd (hnone ▸ hpart.analyzer) List.not_mem_nil
  · obtain rfl := Except.ok.inj (hall.symm.trans hfiles)
    obtain ⟨hsub, hnodup⟩ := analyzersFor_spec haudit.registry request
    rw [hfindings, ← hrelative]
    refine about_resolved_yield hsub hnodup hpart.analyzer hfile fun other hother heq => ?_
    obtain ⟨path, -, hdescribed, hdescribed'⟩ :=
      Scanner.exists_path_of_sees (hsees other hother) (hsees file hfile) heq
    exact Discovery.Sighting.source.inj (hdescribed.symm.trans hdescribed')

theorem analyzersFor_of_sublist (haudit : audit.Plain) (paths : Option (List Path))
    {ids : List String} (h : ids.Sublist Registry.bundled.ids) :
    audit.analyzersFor (.filtered paths ids) =
      bundledAnalyzers.filter (ids.contains ·.id) := by
  have hlinter : ids.filter (· != Linter.analyzerId) = ids := by
    rw [List.filter_eq_self]
    intro id hid
    have hbundled : ∀ id ∈ Registry.bundled.ids, (id != Linter.analyzerId) = true := by decide
    exact hbundled id (h.subset hid)
  simp only [analyzersFor, hlinter, haudit.registry]
  exact Registry.select_of_sublist h

/-! ### Agreement -/

theorem concerns_of_sees {scanner : Scanner} (hselection : scanner.selection = audit.config.selection)
    {file : SourceFile} (h : scanner.Sees tree file) : audit.Concerns file := by
  obtain ⟨path, -, hslashes, hsource, hdescribed⟩ := h
  obtain ⟨rfl, -⟩ := Scanner.relative_of_describe hdescribed
  refine ⟨?_, hselection ▸ hsource⟩
  rw [Path.isAbsolute, hslashes]
  rfl

variable {second : Request} {other : Result} {start stop : Workspace}

/-- Two runs agree about a file and an analyzer that take part in both of them. -/
theorem about_eq_about (haudit : audit.Plain) (htree : workspace.tree.Proper)
    (htree' : start.tree.Proper) (hsame : audit.SameSources workspace.tree start.tree)
    (htargets : ∀ path ∈ request.targets.getD [], path.Proper)
    (htargets' : ∀ path ∈ second.targets.getD [], path.Proper)
    (hrun : (audit.perform request).run.run workspace = (.ok result, later))
    (hrun' : (audit.perform second).run.run start = (.ok other, stop)) {relative : String}
    {analyzer : Analyzer} (hpart : audit.TakesPart workspace.tree request relative analyzer)
    (hpart' : audit.TakesPart start.tree second relative analyzer) :
    about result.findings relative analyzer = about other.findings relative analyzer := by
  obtain ⟨scanner, file, hscanner, hselection, hsees, hrelative, habout⟩ :=
    exists_about_eq haudit htree htargets hrun hpart
  obtain ⟨scanner', file', hscanner', -, hsees', hrelative', habout'⟩ :=
    exists_about_eq haudit htree' htargets' hrun' hpart'
  rw [← hsame.scanner, hscanner, Except.ok.injEq] at hscanner'
  subst hscanner'
  have hconcerns := concerns_of_sees hselection hsees
  obtain ⟨path, hsource, hdescribed, hdescribed'⟩ :=
    Scanner.exists_path_of_sees hsees hsees' (hrelative.trans hrelative'.symm)
  have hfile : file = file' := by
    have hpath : path.isAbsolute := by
      rw [← (Scanner.relative_of_describe hdescribed).1]
      exact hconcerns.absolute
    have h := hsame.source scanner path hscanner hpath (hselection ▸ hsource)
    rw [hdescribed, hdescribed'] at h
    exact Option.some.inj h
  subst hfile
  rw [habout, habout', foundBy_congr hsame
    ((analyzersFor_spec haudit.registry request).1 hpart.analyzer) hconcerns]

theorem analyzersFor_full (haudit : audit.Plain) :
    audit.analyzersFor .full = bundledAnalyzers := by
  simp only [analyzersFor, configured, haudit.registry, haudit.all]
  rfl

/-- The findings of a full run, all from bundled analyzers. -/
theorem findings_full (haudit : audit.Plain)
    (h : (audit.perform .full).run.run workspace = (.ok result, later)) :
    ∃ files, audit.filesFor workspace.tree none = .ok files ∧
      result.findings =
        Aggregate.resolved (audit.yield workspace.tree bundledAnalyzers files) ∧
      Metrics.ofFindings result.findings = .ok result.metrics ∧
      ∀ finding ∈ result.findings, Bundled finding := by
  rcases findings_of_perform haudit h with ⟨hnone, -⟩ | ⟨files, hfiles, hfindings, hmetrics⟩
  · rw [analyzersFor_full haudit] at hnone
    cases hnone
  · rw [analyzersFor_full haudit] at hfindings
    refine ⟨files, hfiles, hfindings, hmetrics, fun finding hfinding => ?_⟩
    rw [hfindings] at hfinding
    exact bundled_of_mem_resolved (fun _ => bundled_of_mem_yield (List.Subset.refl _)) hfinding

/-- A run of all files with some analyzers keeps what the full run keeps of theirs. -/
theorem findings_filtered (haudit : audit.Plain) (htree : workspace.tree.Proper)
    (hsame : audit.SameSources workspace.tree start.tree)
    (hfull : (audit.perform .full).run.run workspace = (.ok result, later)) {ids : List String}
    (hids : ids.Sublist Registry.bundled.ids)
    (hrun : (audit.perform (.filtered none ids)).run.run start = (.ok other, stop)) :
    other.findings = result.findings.filter (ids.contains ·.analyzer) := by
  have hanalyzers := analyzersFor_of_sublist haudit none hids
  obtain ⟨files, hfiles, hfindings, -, -⟩ := findings_full haudit hfull
  obtain ⟨scanner, -, hselection, hsees⟩ := sees_filesFor haudit htree
    (fun path hpath => absurd hpath List.not_mem_nil) hfiles
  -- both sides are what the wanted analyzers alone find in the tree of the full run
  rw [hfindings, ← resolved_filter_of_ids (fun _ => bundled_of_mem_yield (List.Subset.refl _)),
    ← yield_filter, ← hanalyzers]
  rcases findings_of_perform haudit hrun with ⟨hnone, hempty⟩ | ⟨files', hfiles', hfindings', -⟩
  · have hnothing : audit.yield workspace.tree [] files = [] := by
      rw [yield, List.flatMap_eq_nil_iff]
      intro file _
      rw [foundIn_eq, List.flatMap_nil]
    rw [hempty, hnone, hnothing]
    rfl
  · obtain rfl := Except.ok.inj ((filesFor_congr hsame hfiles).symm.trans hfiles')
    rw [hfindings', yield_congr hsame (analyzersFor_spec haudit.registry _).1
      fun file hfile => concerns_of_sees hselection (hsees file hfile)]

/-- A run of all files with all analyzers has the findings and the metrics of the full run. -/
theorem metrics_filtered (haudit : audit.Plain) (htree : workspace.tree.Proper)
    (hsame : audit.SameSources workspace.tree start.tree)
    (hfull : (audit.perform .full).run.run workspace = (.ok result, later))
    (hrun : (audit.perform (.filtered none Registry.bundled.ids)).run.run start =
      (.ok other, stop)) :
    other.findings = result.findings ∧ other.metrics = result.metrics := by
  obtain ⟨-, -, -, hmetrics, hbundled⟩ := findings_full haudit hfull
  have hfindings : other.findings = result.findings := by
    rw [findings_filtered haudit htree hsame hfull (.refl _) hrun, List.filter_eq_self]
    intro finding hfinding
    obtain ⟨analyzer, hanalyzer, hid, -⟩ := hbundled finding hfinding
    rw [hid, List.contains_iff_mem]
    exact List.mem_map_of_mem hanalyzer
  refine ⟨hfindings, ?_⟩
  rcases findings_of_perform haudit hrun with ⟨hnone, -⟩ | ⟨-, -, -, hmetrics'⟩
  · have hany : bundledAnalyzers.filter (Registry.bundled.ids.contains ·.id) ≠ [] := by decide
    rw [analyzersFor_of_sublist haudit none (.refl _)] at hnone
    exact absurd hnone hany
  · rw [hfindings, hmetrics] at hmetrics'
    exact (Except.ok.inj hmetrics').symm

/-- Runs that see the same sources agree: about a file and an analyzer that take part in two of them,
both keep the same findings in the same order and with the same priorities. Where one of them is
the full run and the other one looks at all files with the analyzers of some identifiers in the
order of the registry, it keeps what the full run keeps of them, and if it has all of them, both
runs have the same findings and metrics. -/
theorem perform_agree (haudit : audit.Plain) (htree : workspace.tree.Proper)
    (htree' : start.tree.Proper) (hsame : audit.SameSources workspace.tree start.tree)
    (htargets : ∀ path ∈ request.targets.getD [], path.Proper)
    (htargets' : ∀ path ∈ second.targets.getD [], path.Proper)
    (hrun : (audit.perform request).run.run workspace = (.ok result, later))
    (hrun' : (audit.perform second).run.run start = (.ok other, stop)) :
    (∀ relative analyzer, audit.TakesPart workspace.tree request relative analyzer →
      audit.TakesPart start.tree second relative analyzer →
        about result.findings relative analyzer = about other.findings relative analyzer) ∧
    (∀ ids : List String, request = .full → second = .filtered none ids →
      ids.Sublist Registry.bundled.ids →
        other.findings = result.findings.filter (ids.contains ·.analyzer)) ∧
    (request = .full → second = .filtered none Registry.bundled.ids →
      other.findings = result.findings ∧ other.metrics = result.metrics) := by
  refine ⟨fun relative analyzer hpart hpart' => ?_, fun ids hfull hfiltered hids => ?_,
    fun hfull hfiltered => ?_⟩
  · exact about_eq_about haudit htree htree' hsame htargets htargets' hrun hrun' hpart hpart'
  · subst hfull hfiltered
    exact findings_filtered haudit htree hsame hrun hids hrun'
  · subst hfull hfiltered
    exact metrics_filtered haudit htree hsame hrun hrun'

/-! ### What runs leave as it is -/

/-- An audit that reads its sources from the tree, by globs that are patterns, and for which nothing in its
store is a source. -/
structure Separate (audit : Audit) : Prop where
  read : audit.read = readSource
  tidy : audit.Tidy
  readable : audit.config.selection.Readable
  extensions : ∀ extension ∈ ["json", "jsonl", "md"],
    audit.config.selection.isSource extension = false

/-- A tree without links in which the directory of an audit's store stands. Where a run has to make it,
targets that lead into it and out again by two dots are found from then on. -/
structure Housed (audit : Audit) (tree : FileTree) : Prop where
  here : tree.here.isAbsolute
  names : tree.here.Proper
  plain : tree.root.Plain
  directory : ∃ entries, tree.node audit.store.directory = .ok (.directory entries)

theorem Housed.proper (h : audit.Housed tree) : tree.Proper :=
  ⟨h.plain.proper, h.names⟩

theorem properName_of_mem_fileNames {name : String} (h : name ∈ Store.fileNames) :
    ProperName name ∧ name ≠ ".." := by
  have hall : ∀ name ∈ Store.fileNames, ProperName name ∧ name ≠ ".." := by decide
  exact hall name h

/-- A source ends with none of the names that are written into the store. -/
theorem Separate.getLast?_ne (haudit : audit.Separate) {name : String} (hname : name ∈ Store.fileNames)
    {path : Path} (h : audit.config.selection.isSource path.extension = true) :
    path.names.getLast? ≠ some name := by
  intro hlast
  have hextension : path.extension = (⟨0, [name]⟩ : Path).extension := by
    unfold Path.extension Path.name
    rw [hlast]
    rfl
  have hall : ∀ name ∈ Store.fileNames, (⟨0, [name]⟩ : Path).extension ∈ ["json", "jsonl", "md"] := by
    decide +kernel
  rw [hextension, haudit.extensions _ (hall name hname)] at h
  cases h

/-- A test ends with none of the names that are written into the store. -/
theorem getLast?_of_expectedTests {file : SourceFile} {path : Path} (h : path ∈ expectedTests file)
    {name : String} (hname : name ∈ Store.fileNames) (tree : FileTree) :
    (tree.absolute path).names.getLast? ≠ some name := by
  have hend : "Test.kt".toList <:+ (testName file).toList := by
    rw [testName, String.toList_append]
    exact List.suffix_append _ _
  have hall : ∀ name ∈ Store.fileNames, ¬"Test.kt".toList <:+ name.toList := by decide
  unfold expectedTests at h
  dsimp only at h
  split at h
  · cases h
  · obtain ⟨directory, -, rfl⟩ := List.mem_map.1 h
    rw [Path.withName, FileTree.getLast?_absolute_child]
    rintro hlast
    exact hall name hname (Option.some.inj hlast ▸ hend)

/-- What is read of a source depends on its content alone, if it can be read. -/
theorem readSource_congr {other : FileTree} {file : SourceFile}
    (h : (tree.content file.path).toOption = (other.content file.path).toOption) :
    (readSource tree file).toOption = (readSource other file).toOption := by
  unfold readSource FileTree.readText
  cases hcontent : tree.content file.path with
  | error error =>
    cases hother : other.content file.path with
    | error other => rfl
    | ok content =>
      rw [hcontent, hother] at h
      cases h
  | ok content =>
    cases hother : other.content file.path with
    | error error =>
      rw [hcontent, hother] at h
      cases h
    | ok content' =>
      rw [hcontent, hother] at h
      cases h
      rfl

section Edited

variable {name : String} {edit : Edit}

/-- A file that is written into the store leaves a housed tree. -/
theorem Housed.edited (h : audit.Housed tree) (hname : name ∈ Store.fileNames)
    (hpath : edit.path = audit.store.directory.child name) : audit.Housed (tree.edited edit) := by
  obtain ⟨entries, hdirectory⟩ := h.directory
  obtain ⟨entries', -, hafter, -, -⟩ := FileTree.exists_directory_edited hdirectory edit
  refine ⟨?_, ?_, FileTree.plain_edited h.plain (properName_of_mem_fileNames hname) ?_, entries', hafter⟩
  · rw [FileTree.here_edited]
    exact h.here
  · rw [FileTree.here_edited]
    exact h.names
  · rw [hpath, FileTree.getLast?_absolute_child]

variable (haudit : audit.Separate) (h : audit.Housed tree) (hname : name ∈ Store.fileNames)
  (hpath : edit.path = audit.store.directory.child name)

include h hname hpath

theorem Housed.shown_edited {path : Path} (hlast : (tree.absolute path).names.getLast? ≠ some name) :
    (tree.edited edit).shown path = tree.shown path := by
  refine FileTree.shown_edited h.plain (h.edited hname hpath).plain ?_
  rwa [hpath, FileTree.getLast?_absolute_child]

include haudit

/-- A scan that comes to an end finds the same files when a file has been written into the store. -/
theorem Housed.sighted_edited {scanner : Scanner} (hscanner : audit.scannerIn tree = .ok scanner)
    {found : List SourceFile} (hfound : sighted scanner tree none = .ok found) :
    sighted scanner (tree.edited edit) none = .ok found := by
  obtain ⟨hselection, -⟩ := scannerIn_eq_ok hscanner
  obtain ⟨all, hall, rfl⟩ := Outcome.map_eq_ok.1 hfound
  obtain ⟨entries, hentries⟩ := Scanner.exists_directory_of_scanAt hall
  obtain ⟨entries', place, hentries', hat, hafter⟩ := FileTree.exists_directory_edited hentries edit
  have hheld : ∀ names, (Node.directory entries).at? names = tree.root.at? (place ++ names) ∧
      (Node.directory entries').at? names = (tree.edited edit).root.at? (place ++ names) := by
    intro names
    rw [Node.at?_append, Node.at?_append, hat, hafter]
    exact ⟨rfl, rfl⟩
  have hkept : ∀ names, names ≠ [] → scanner.takes (scanner.root.under names) = true →
      ((Node.directory entries).at? names).map Node.held? =
          ((Node.directory entries').at? names).map Node.held? ∧
        tree.shown (scanner.root.under names) =
          (tree.edited edit).shown (scanner.root.under names) := by
    intro names hne htakes
    have hlast : names.getLast? ≠ some name := by
      have hsource := (Bool.and_eq_true_iff.1 htakes).1
      rw [hselection] at hsource
      have hother := haudit.getLast?_ne hname hsource
      rwa [Path.under, List.getLast?_append_of_ne_nil _ hne] at hother
    constructor
    · rw [(hheld names).1, (hheld names).2, FileTree.held_edited h.plain]
      rwa [hpath, FileTree.getLast?_absolute_child, List.getLast?_append_of_ne_nil _ hne]
    · refine (h.shown_edited hname hpath ?_).symm
      rwa [FileTree.absolute_under, Path.under, List.getLast?_append_of_ne_nil _ hne]
  obtain ⟨others, hothers, hfiles⟩ := Scanner.exists_scanAt_congr (hselection ▸ haudit.readable)
    hentries (h.plain.at? hat).1 hentries' ((h.edited hname hpath).plain.at? hafter).1 hkept hall
  exact Outcome.map_eq_ok.2 ⟨others, hothers, hfiles⟩

/-- A file that is written into the store shows an audit no other sources. -/
theorem Housed.sameSources_edited : audit.SameSources tree (tree.edited edit) := by
  have habsolute : ∀ path : Path, path.isAbsolute →
      audit.config.selection.isSource path.extension →
        (tree.absolute path).names.getLast? ≠ some name := by
    intro path hpath hsource
    rw [FileTree.absolute_of_isAbsolute hpath]
    exact haudit.getLast?_ne hname hsource
  refine ⟨?_, fun scanner found hscanner => h.sighted_edited haudit hname hpath hscanner, ?_, ?_, ?_⟩
  · unfold scannerIn Scanner.ofRoot
    rw [FileTree.resolve_edited h.plain (h.edited hname hpath).plain]
  · intro scanner path _ hroot hsource
    rw [Scanner.source?_describe, Scanner.source?_describe,
      h.shown_edited hname hpath (habsolute path hroot hsource)]
  · intro file hfile
    rw [haudit.read]
    refine readSource_congr ?_
    rw [FileTree.content_eq_shown, FileTree.content_eq_shown,
      h.shown_edited hname hpath (habsolute _ hfile.absolute hfile.source)]
  · intro file path htest
    rw [FileTree.hasFile_eq_shown, FileTree.hasFile_eq_shown,
      h.shown_edited hname hpath (getLast?_of_expectedTests htest hname tree)]

end Edited

section Runs

variable (haudit : audit.Separate)

include haudit

/-- A delivery into the store leaves a housed tree with the same sources. -/
theorem Housed.deliver (h : audit.Housed tree) {name : String} (hname : name ∈ Store.fileNames)
    {edit : Edit} (hpath : edit.path = audit.store.directory.child name) :
    audit.Housed (tree.deliver audit.store.directory edit).1 ∧
      audit.SameSources tree (tree.deliver audit.store.directory edit).1 := by
  obtain ⟨entries, hdirectory⟩ := h.directory
  rw [FileTree.deliver_of_made (FileTree.makeDirectory_of_directory h.here hdirectory) edit]
  exact ⟨h.edited hname hpath, h.sameSources_edited haudit hname hpath⟩

theorem Housed.of_deliveries (h : audit.Housed tree) {after : FileTree}
    (hafter : audit.store.Deliveries tree after) :
    audit.Housed after ∧ audit.SameSources tree after := by
  induction hafter with
  | nothing => exact ⟨h, .refl _ _⟩
  | file _ hname hpath ih =>
    obtain ⟨hbetween, hsame⟩ := ih
    obtain ⟨hhoused, hnext⟩ := hbetween.deliver haudit hname hpath
    exact ⟨hhoused, hsame.trans hnext⟩

/-- Whatever becomes of a run, it leaves a housed tree with the sources it has seen. -/
theorem Housed.perform (h : audit.Housed workspace.tree) (request : Request) :
    audit.Housed ((audit.perform request).run.run workspace).2.tree ∧
      audit.SameSources workspace.tree ((audit.perform request).run.run workspace).2.tree :=
  h.of_deliveries haudit (confined_perform haudit.tidy request workspace)

end Runs

/-- Where runs of an audit lead that are made one after the other, whatever becomes of them. -/
inductive Leads (audit : Audit) (start : Workspace) : Workspace → Prop
  | start : Leads audit start start
  | run {workspace : Workspace} (before : Leads audit start workspace) (request : Request) :
    Leads audit start ((audit.perform request).run.run workspace).2

theorem Leads.sameSources (haudit : audit.Separate) (h : audit.Leads start workspace)
    (hstart : audit.Housed start.tree) :
    audit.Housed workspace.tree ∧ audit.SameSources start.tree workspace.tree := by
  induction h with
  | start => exact ⟨hstart, .refl _ _⟩
  | run _ request ih =>
    obtain ⟨hhoused, hsame⟩ := ih
    obtain ⟨hafter, hnext⟩ := hhoused.perform haudit request
    exact ⟨hafter, hsame.trans hnext⟩

theorem sample_separate : sample.Separate where
  read := rfl
  tidy := nofun
  readable := fun _ hglob => absurd hglob List.not_mem_nil
  extensions := by decide

theorem sample_housed : sample.Housed sampleTree where
  here := rfl
  names := nofun
  plain := ⟨by decide, ⟨by decide, by decide⟩, ⟨by decide, trivial⟩, ⟨by decide, by decide⟩,
    ⟨by decide, ⟨by decide, by decide⟩, trivial, trivial⟩, trivial⟩
  directory := ⟨[], sample_node (by decide) (by decide) (fun _ h => by cases h) rfl⟩

example (h : sample.Leads sampleStart workspace) : sample.SameSources sampleTree workspace.tree :=
  (h.sameSources sample_separate sample_housed).2

/-- Runs of an audit one after the other agree, whatever has become of the runs between them. -/
theorem about_of_leads (haudit : audit.Plain) (hseparate : audit.Separate)
    (hhoused : audit.Housed workspace.tree) (hleads : audit.Leads workspace start)
    (htargets : ∀ path ∈ request.targets.getD [], path.Proper)
    (htargets' : ∀ path ∈ second.targets.getD [], path.Proper)
    (hrun : (audit.perform request).run.run workspace = (.ok result, later))
    (hrun' : (audit.perform second).run.run start = (.ok other, stop)) {relative : String}
    {analyzer : Analyzer} (hpart : audit.TakesPart workspace.tree request relative analyzer)
    (hpart' : audit.TakesPart start.tree second relative analyzer) :
    about result.findings relative analyzer = about other.findings relative analyzer := by
  obtain ⟨hstart, hsame⟩ := hleads.sameSources hseparate hhoused
  exact about_eq_about haudit hhoused.proper hstart.proper hsame htargets htargets' hrun hrun' hpart
    hpart'

/-- A run of all files keeps what an earlier full run has found with the same analyzers. -/
theorem findings_of_leads (haudit : audit.Plain) (hseparate : audit.Separate)
    (hhoused : audit.Housed workspace.tree) (hleads : audit.Leads workspace start)
    (hfull : (audit.perform .full).run.run workspace = (.ok result, later)) {ids : List String}
    (hids : ids.Sublist Registry.bundled.ids)
    (hrun : (audit.perform (.filtered none ids)).run.run start = (.ok other, stop)) :
    other.findings = result.findings.filter (ids.contains ·.analyzer) :=
  findings_filtered haudit hhoused.proper (hleads.sameSources hseparate hhoused).2 hfull hids hrun

/-! ### The runs of a sample -/

theorem sample_plain : sample.Plain := by
  refine ⟨rfl, rfl, rfl, fun name hname => ?_⟩
  rw [List.mem_singleton.1 hname]
  exact ⟨by decide, by decide, by decide⟩

theorem sample_proper : sampleTree.Proper := sample_housed.proper

/-- The full run of a project and the run with all analyzers agree. -/
theorem perform_agree_sample : ∃ result later other stop,
    (sample.perform .full).run.run sampleStart = (.ok result, later) ∧
    (sample.perform (.filtered none Registry.bundled.ids)).run.run sampleStart = (.ok other, stop) ∧
    about result.findings "A.kt" Rule.Documentation.analyzer =
      about other.findings "A.kt" Rule.Documentation.analyzer ∧
    other.findings = result.findings ∧ other.metrics = result.metrics := by
  have hall : sample.analyzersFor (.filtered none Registry.bundled.ids) = bundledAnalyzers := by
    rw [analyzersFor_of_sublist sample_plain none (.refl _)]
    rfl
  obtain ⟨result, later, hrun⟩ := sample_completes rfl (analyzersFor_full sample_plain)
  obtain ⟨other, stop, hrun'⟩ := sample_completes rfl hall
  obtain ⟨habout, -, hboth⟩ := perform_agree sample_plain sample_proper sample_proper
    (.refl _ _) (fun path hpath => absurd hpath List.not_mem_nil)
    (fun path hpath => absurd hpath List.not_mem_nil) hrun hrun'
  have hanalyzer : Rule.Documentation.analyzer ∈ bundledAnalyzers := by
    simp [bundledAnalyzers]
  have hfile : ∃ file ∈ [sampleFile], file.relative = "A.kt" := ⟨_, List.mem_singleton_self _, rfl⟩
  refine ⟨result, later, other, stop, hrun, hrun', ?_, hboth rfl rfl⟩
  refine habout _ _ ⟨?_, _, sample_files, hfile⟩ ⟨?_, _, sample_files, hfile⟩
  · rw [analyzersFor_full sample_plain]
    exact hanalyzer
  · rw [hall]
    exact hanalyzer

end KotlinAudit.Audit
