import KotlinAudit.Proofs.FileTree.Plain
import KotlinAudit.Proofs.Registry
import KotlinAudit.Proofs.Rule.Catalogue
import KotlinAudit.Proofs.Rule.SourceSet

/-! Projects that stand elsewhere. What the analyzers say about a file depends on its name, its relative
path, its layer and its text. Only the one on tests asks for other files, and it searches the absolute path
for the directory of main sources. Where the path of the project has such a directory itself, the tests are
expected outside the project. -/
namespace KotlinAudit

/-- Files that differ at most in where their project stands. -/
structure SourceFile.Alike (file other : SourceFile) : Prop where
  name : file.path.name = other.path.name
  relative : file.relative = other.relative
  layer : file.layer = other.layer

namespace SourceFile.Alike

variable {file other : SourceFile}

theorem name_eq (h : file.Alike other) : file.name = other.name := h.name

theorem stem_eq (h : file.Alike other) : file.stem = other.stem := by
  rw [stem, stem, Path.stem, Path.stem, h.name]

theorem extension_eq (h : file.Alike other) : file.extension = other.extension := by
  rw [extension, extension, Path.extension, Path.extension, h.name]

theorem isNamed_eq (h : file.Alike other) (ends : List String) :
    file.isNamed ends = other.isNamed ends := by
  rw [isNamed, isNamed, h.name_eq]

theorem isTest_eq (h : file.Alike other) : file.isTest = other.isTest := by rw [isTest, isTest, h.layer]

theorem outsideTests_eq (h : file.Alike other) : outsideTests file = outsideTests other := by
  rw [outsideTests, outsideTests, h.isTest_eq]

end SourceFile.Alike

namespace Rule

open KotlinAudit.Path (ProperName)

variable {file other : SourceFile}

theorem appliesTo_of_alike (h : file.Alike other) {analyzer : Analyzer}
    (hanalyzer : analyzer ∈ bundledAnalyzers) : analyzer.appliesTo file = analyzer.appliesTo other := by
  simp only [bundledAnalyzers, List.mem_cons, List.not_mem_nil, or_false] at hanalyzer
  rcases hanalyzer with rfl | rfl | rfl | rfl | rfl | rfl | rfl | rfl | rfl | rfl | rfl | rfl
  case inl => exact congrArg (fun layer => Except.ok (Option.isSome layer)) h.layer
  case inr.inr.inr.inr.inl =>
    simp only [StateManagement.analyzer, Analyzer.ofRules, StateManagement.concerns, h.outsideTests_eq,
      h.name_eq]
  case inr.inr.inr.inr.inr.inl =>
    simp only [Compose.analyzer, Analyzer.ofRules, Compose.concerns, h.outsideTests_eq, h.isNamed_eq,
      h.layer]
  case inr.inr.inr.inr.inr.inr.inl =>
    simp only [DependencyInjection.analyzer, Analyzer.ofRules, DependencyInjection.concerns,
      h.outsideTests_eq, h.isNamed_eq]
  case inr.inr.inr.inr.inr.inr.inr.inl =>
    simp only [Database.analyzer, Analyzer.ofRules, Database.concerns, h.isNamed_eq, h.layer]
  case inr.inr.inr.inr.inr.inr.inr.inr.inr.inr.inl =>
    simp only [TestCoverage.analyzer, h.extension_eq]
  all_goals exact congrArg Except.ok h.outsideTests_eq

theorem Architecture.rules_of_alike (h : file.Alike other) (text : List Char) :
    rules file text = rules other text := by
  have husecase : isUseCaseFile file = isUseCaseFile other := by
    rw [isUseCaseFile, isUseCaseFile, h.relative, h.isNamed_eq]
  unfold rules
  rw [h.layer, h.name_eq, husecase]

theorem Naming.rules_of_alike (h : file.Alike other) (text : List Char) :
    rules file text = rules other text := by
  have hfile : fileName file = fileName other := by
    unfold fileName
    rw [h.name_eq, h.extension_eq, h.stem_eq]
  rw [rules, rules, hfile]

/-- All chapters but the one on tests draft the same about files that are alike. -/
theorem drafts_of_alike (h : file.Alike other) {chapter : Chapter} (hchapter : chapter ∈ catalogue)
    (hid : chapter.analyzer.id ≠ TestCoverage.analyzer.id) (isFile isFile' : FileTest)
    (text : List Char) : chapter.drafts isFile file text = chapter.drafts isFile' other text := by
  simp only [catalogue, List.mem_cons, List.not_mem_nil, or_false] at hchapter
  rcases hchapter with rfl | rfl | rfl | rfl | rfl | rfl | rfl | rfl | rfl | rfl | rfl | rfl
  case inl => exact congrArg Except.ok (Architecture.rules_of_alike h text)
  case inr.inr.inl => exact congrArg Except.ok (Naming.rules_of_alike h text)
  case inr.inr.inr.inr.inr.inr.inr.inr.inr.inr.inl => exact absurd rfl hid
  all_goals rfl

theorem finding_of_alike (h : file.Alike other) (draft : Draft) (analyzer : String)
    (category : Category) : draft.finding analyzer category file = draft.finding analyzer category other := by
  rw [Draft.finding, Draft.finding, h.relative]

/-- All analyzers but the one on tests say the same about files that are alike. -/
theorem analyze_of_alike (h : file.Alike other) {analyzer : Analyzer}
    (hanalyzer : analyzer ∈ bundledAnalyzers) (hid : analyzer.id ≠ TestCoverage.analyzer.id)
    (isFile isFile' : FileTest) (text : List Char) :
    analyzer.analyze isFile file text = analyzer.analyze isFile' other text := by
  rw [← analyzers_catalogue] at hanalyzer
  obtain ⟨chapter, hchapter, rfl⟩ := List.mem_map.1 hanalyzer
  rw [reports_of_mem_catalogue hchapter, reports_of_mem_catalogue hchapter,
    drafts_of_alike h hchapter hid isFile isFile' text]
  simp only [finding_of_alike h]

namespace TestCoverage

/-- Whether a component has none of the tests that are expected of it; nothing where a test cannot be asked
for. -/
def lacksTest? (isFile : FileTest) (file : SourceFile) : Option Bool :=
  if (expectedTests file).isEmpty then some false
  else (anyFile isFile (expectedTests file)).toOption.map (!·)

/-- A file of which no test is expected whatever stands beside it. -/
def Unasked (file : SourceFile) (text : List Char) : Prop :=
  isTestSource file = true ∨ componentKind? file text = none

theorem isTestSource_of_alike (h : file.Alike other) : isTestSource file = isTestSource other := by
  rw [isTestSource, isTestSource, h.isTest_eq, h.relative]

theorem componentKind?_of_alike (h : file.Alike other) (text : List Char) :
    componentKind? file text = componentKind? other text := by
  unfold componentKind?
  rw [h.isNamed_eq, h.isNamed_eq, h.isNamed_eq, h.layer]

theorem missingTest_of_alike (h : file.Alike other) (kind : String) :
    missingTest file kind = missingTest other kind := by
  unfold missingTest testName
  rw [h.stem_eq]

theorem testFileNaming_of_alike (h : file.Alike other) : testFileNaming file = testFileNaming other := by
  unfold testFileNaming
  rw [h.name_eq]

theorem rules_of_unasked (h : file.Alike other) {text : List Char} (hunasked : Unasked file text)
    (isFile isFile' : FileTest) : rules isFile file text = rules isFile' other text := by
  unfold rules
  rw [← isTestSource_of_alike h, ← componentKind?_of_alike h, ← h.isNamed_eq,
    ← testFileNaming_of_alike h]
  by_cases hsource : isTestSource file = true
  · rw [if_pos hsource, if_pos hsource]
  · rw [if_neg hsource, if_neg hsource, hunasked.resolve_left hsource]

/-- A component is reported if it lacks its tests. -/
theorem toOption_rules {text : List Char} {kind : String} (hsource : isTestSource file = false)
    (hkind : componentKind? file text = some kind) (isFile : FileTest) :
    (rules isFile file text).toOption =
      (lacksTest? isFile file).map fun lacks => if lacks then [missingTest file kind] else [] := by
  unfold rules lacksTest?
  rw [hsource, if_neg Bool.false_ne_true, hkind]
  dsimp only
  split
  · rfl
  · cases anyFile isFile (expectedTests file) with
    | error error => rfl
    | ok any => cases any <;> rfl

/-- The findings of some drafts about a file. -/
def reported (file : SourceFile) (drafts : List Draft) : List Finding :=
  drafts.map fun draft => draft.finding "test-coverage" .testCoverage file

theorem reported_of_alike (h : file.Alike other) : reported file = reported other := by
  funext drafts
  exact List.map_congr_left fun draft _ => finding_of_alike h draft _ _

theorem toOption_analyze (isFile : FileTest) (file : SourceFile) (text : List Char) :
    (analyzer.analyze isFile file text).toOption =
      (rules isFile file text).toOption.map (reported file) := by
  simp only [analyzer]
  cases rules isFile file text <;> rfl

/-- The findings about files that are alike are the same exactly if nothing is asked for or the answers
agree. -/
theorem toOption_analyze_iff (h : file.Alike other) (text : List Char) (isFile isFile' : FileTest) :
    (analyzer.analyze isFile file text).toOption = (analyzer.analyze isFile' other text).toOption ↔
      Unasked file text ∨ lacksTest? isFile file = lacksTest? isFile' other := by
  rw [toOption_analyze, toOption_analyze, reported_of_alike h]
  by_cases hunasked : Unasked file text
  · rw [rules_of_unasked h hunasked isFile isFile']
    exact iff_of_true rfl (.inl hunasked)
  · rw [or_iff_right hunasked]
    obtain ⟨hsource, hkind⟩ := not_or.1 hunasked
    rw [Bool.not_eq_true] at hsource
    obtain ⟨kind, hkind⟩ := Option.ne_none_iff_exists'.1 hkind
    rw [toOption_rules hsource hkind, toOption_rules (by rw [← isTestSource_of_alike h, hsource])
      (by rw [← componentKind?_of_alike h, hkind]), ← missingTest_of_alike h, Option.map_map,
      Option.map_map]
    refine (Option.map_injective ?_).eq_iff
    intro lacks lacks' heq
    cases lacks <;> cases lacks' <;> first | rfl | cases heq

/-! ### Tests of a project that stands elsewhere -/

/-- No directory of main sources begins in the names of the root. -/
def Neutral (root names : List String) : Prop :=
  ∀ front back, root ++ names = front ++ "src" :: "main" :: back → root <+: front

variable {root names : List String}

theorem splitMain_append (h : Neutral root names) : splitMain (root ++ names) =
    (splitMain names).map fun (front, back) => (root ++ front, back) := by
  induction root with
  | nil => simp
  | cons name root ih =>
    have hmain : ¬(["src", "main"] <+: name :: (root ++ names) ∧ 1 < (root ++ names).length) := by
      rintro ⟨⟨back, hback⟩, -⟩
      cases List.prefix_nil.1 (h [] back hback.symm)
    have hrest : Neutral root names := by
      intro front back heq
      exact (List.cons_prefix_cons.1 (h (name :: front) back (congrArg (name :: ·) heq))).2
    rw [List.cons_append, splitMain, if_neg hmain, ih hrest, Option.map_map]
    rfl

/-- The first directory of main sources begins where one begins, or before. -/
theorem exists_splitMain {front back : List String} (hnames : names = front ++ "src" :: "main" :: back)
    (hback : back ≠ []) : ∃ first last, splitMain names = some (first, last) ∧ first <+: front := by
  subst hnames
  induction front with
  | nil =>
    have hlength : 1 < ("main" :: back).length := by
      have hpositive := List.length_pos_iff.2 hback
      rw [List.length_cons]
      omega
    refine ⟨[], back, ?_, List.nil_prefix⟩
    rw [List.nil_append, splitMain, if_pos ⟨⟨back, rfl⟩, hlength⟩, List.tail_cons]
  | cons name front ih =>
    obtain ⟨first, last, hsplit, hfirst⟩ := ih
    rw [List.cons_append, splitMain]
    split
    · exact ⟨[], _, rfl, List.nil_prefix⟩
    · exact ⟨name :: first, last, by rw [hsplit]; rfl, List.cons_prefix_cons.2 ⟨rfl, hfirst⟩⟩

/-- Where the tests of a file are expected below the root. -/
def testsBelow (names : List String) (test : String) : List (List String) :=
  match splitMain names with
  | none => []
  | some (front, back) =>
    testSets.map fun set => front ++ "src" :: set :: (back.dropLast ++ [test])

theorem testName_ne_up (file : SourceFile) : testName file ≠ ".." := by
  intro h
  have hlength := congrArg (fun name => name.toList.length) h
  rw [testName, String.toList_append, List.length_append] at hlength
  simp at hlength

theorem ne_up_of_mem_testsBelow {file : SourceFile} (h : ∀ name ∈ names, name ≠ "..")
    {test : List String} (htest : test ∈ testsBelow names (testName file)) : ∀ name ∈ test, name ≠ ".." := by
  unfold testsBelow at htest
  cases hsplit : splitMain names with
  | none =>
    rw [hsplit] at htest
    exact absurd htest List.not_mem_nil
  | some sides =>
    obtain ⟨front, back⟩ := sides
    rw [hsplit] at htest
    obtain ⟨set, hset, rfl⟩ := List.mem_map.1 htest
    rw [(append_of_splitMain hsplit).1] at h
    simp only [List.forall_mem_append, List.forall_mem_cons] at h ⊢
    exact ⟨h.1, h.2.1, (properName_of_mem_testSets set hset).2,
      fun name hname => h.2.2.2 name (List.dropLast_subset back hname), testName_ne_up file,
      List.forall_mem_nil _⟩

theorem toOption_anyFile_map {isFile isFile' : FileTest} {path path' : List String → Path}
    {tests : List (List String)} (h : ∀ names ∈ tests,
      (isFile (path names)).toOption = (isFile' (path' names)).toOption) :
    (anyFile isFile (tests.map path)).toOption = (anyFile isFile' (tests.map path')).toOption := by
  induction tests with
  | nil => rfl
  | cons names rest ih =>
    rw [List.forall_mem_cons] at h
    have hrest := ih h.2
    rw [List.map_cons, List.map_cons, anyFile, anyFile]
    cases hfile : isFile (path names) with
    | error error =>
      cases hfile' : isFile' (path' names) with
      | error error' => rfl
      | ok there =>
        rw [hfile, hfile'] at h
        cases h.1
    | ok there =>
      cases hfile' : isFile' (path' names) with
      | error error' =>
        rw [hfile, hfile'] at h
        cases h.1
      | ok there' =>
        rw [hfile, hfile'] at h
        obtain rfl : there = there' := Option.some.inj h.1
        cases there with
        | true => rfl
        | false => exact hrest

/-- A file of a project that stands at a root. -/
structure Lives (tree : FileTree) (root : Path) (project : Node) (names : List String)
    (file : SourceFile) : Prop where
  stands : tree.Stands root project
  plain : project.Plain
  slashes : root.slashes ≤ 2
  proper : root.Proper
  path : file.path = root.under names

/-- All expected tests have paths that can be asked for. -/
def Askable (file : SourceFile) : Prop := ∀ path ∈ expectedTests file, FileTree.refusal? path = none

section Lives

variable {tree : FileTree} {root : Path} {project : Node} {names : List String} {file : SourceFile}

theorem Lives.expectedTests_eq (h : Lives tree root project names file)
    (hnames : ∀ name ∈ names, ProperName name) (hne : names ≠ []) :
    expectedTests file = match splitMain (root.names ++ names) with
      | none => []
      | some (front, back) => testSets.map fun set =>
        ⟨root.slashes, front ++ "src" :: set :: (back.dropLast ++ [testName file])⟩ := by
  have habsolute : root.slashes ≠ 0 := by simpa [Path.isAbsolute] using h.stands.absolute
  obtain ⟨count, hcount⟩ := Nat.exists_eq_add_one_of_ne_zero habsolute
  have hslashes := h.slashes
  have hpath : file.path.names = root.names ++ names := by rw [h.path, Path.under]
  have hproper : file.path.Proper := by
    rw [Path.Proper, hpath]
    exact List.forall_mem_append.2 ⟨h.proper, hnames⟩
  have htests := TestCoverage.expectedTests_eq (show count ≤ 1 by omega) (by rw [h.path, Path.under, hcount])
    hproper (by rw [hpath]; simp [hne])
  rw [hpath, ← hcount] at htests
  exact htests

/-- Below a neutral root the tests are expected inside the project. -/
theorem Lives.expectedTests_map (h : Lives tree root project names file)
    (hnames : ∀ name ∈ names, ProperName name) (hne : names ≠ []) (hneutral : Neutral root.names names) :
    expectedTests file = (testsBelow names (testName file)).map root.under := by
  rw [h.expectedTests_eq hnames hne, splitMain_append hneutral, testsBelow]
  cases splitMain names with
  | none => rfl
  | some sides =>
    obtain ⟨front, back⟩ := sides
    rw [List.map_map]
    refine List.map_congr_left fun set _ => ?_
    simp [Path.under]

/-- Where a root has a directory of main sources, the tests are expected outside the project. -/
theorem Lives.not_prefix_of_main (h : Lives tree root project names file)
    (hnames : ∀ name ∈ names, ProperName name) (hne : names ≠ []) {front back : List String}
    (hroot : root.names = front ++ "src" :: "main" :: back) :
    expectedTests file ≠ [] ∧ ∀ path ∈ expectedTests file, ¬root.names <+: path.names := by
  have hwhole : root.names ++ names = front ++ "src" :: "main" :: (back ++ names) := by
    rw [hroot, List.append_assoc]
    rfl
  obtain ⟨first, last, hsplit, hfirst⟩ := exists_splitMain hwhole (by simp [hne])
  rw [h.expectedTests_eq hnames hne, hsplit]
  refine ⟨List.cons_ne_nil _ _, fun path hpath hbelow => ?_⟩
  obtain ⟨set, hset, rfl⟩ := List.mem_map.1 hpath
  -- The first directory of main sources ends within the root, so what stands in another set is not below it.
  have hmain : first ++ ["src", "main"] <+: root.names := by
    refine @List.prefix_of_prefix_length_le _ _ _ (root.names ++ names) ?_ (List.prefix_append _ _) ?_
    · rw [(append_of_splitMain hsplit).1]
      exact ⟨last, by simp⟩
    · have hlength := hfirst.length_le
      rw [hroot, List.length_append, List.length_append, List.length_cons, List.length_cons]
      simp only [List.length_cons, List.length_nil]
      omega
  have hset' : ["src", "main"] <+: "src" :: set :: (last.dropLast ++ [testName file]) :=
    (List.prefix_append_right_inj first).1 (hmain.trans hbelow)
  obtain ⟨rfl, -⟩ := List.cons_prefix_cons.1 (List.cons_prefix_cons.1 hset').2
  exact absurd hset (by decide)

/-- Below neutral roots the same tests are found. -/
theorem lacksTest?_moved {tree' : FileTree} {root' : Path} {project' : Node} {file' : SourceFile}
    {content : Content} {modified : Int} (hat : project.at? names = some (.file content modified))
    (hne : names ≠ []) (hsame : project.undated = project'.undated)
    (h : Lives tree root project names file) (h' : Lives tree' root' project' names file')
    (halike : file.Alike file') (hneutral : Neutral root.names names)
    (hneutral' : Neutral root'.names names) (haskable : Askable file) (haskable' : Askable file') :
    lacksTest? tree.hasFile file = lacksTest? tree'.hasFile file' := by
  have hnames := (h.plain.at? hat).2
  have htests := h.expectedTests_map (fun name hname => (hnames name hname).1) hne hneutral
  have htests' := h'.expectedTests_map (fun name hname => (hnames name hname).1) hne hneutral'
  have htest : testName file = testName file' := by rw [testName, testName, halike.stem_eq]
  rw [← htest] at htests'
  have hdots : ∀ test ∈ testsBelow names (testName file), ∀ name ∈ test, name ≠ ".." :=
    fun test hmem => ne_up_of_mem_testsBelow (fun name hname => (hnames name hname).2) hmem
  have hanswers : ∀ test ∈ testsBelow names (testName file),
      (tree.hasFile (root.under test)).toOption = (tree'.hasFile (root'.under test)).toOption := by
    intro test hmem
    rw [h.stands.hasFile_under h.plain (hdots test hmem)
        (haskable _ (htests ▸ List.mem_map_of_mem hmem)),
      h'.stands.hasFile_under h'.plain (hdots test hmem)
        (haskable' _ (htests' ▸ List.mem_map_of_mem hmem)), hsame]
  rw [lacksTest?, lacksTest?, htests, htests', toOption_anyFile_map hanswers, List.isEmpty_map,
    List.isEmpty_map]

end Lives

end TestCoverage

open TestCoverage (Lives Neutral Askable Unasked lacksTest? expectedTests)

/-- A file of two projects that differ at most in where they stand and in the times of their files. All
analyzers but the one on tests say the same about it. The one on tests does so exactly if no test is
expected whatever stands beside the file, or if the file lacks its tests in both projects or in neither.
Below neutral roots it always does; a root that has a directory of main sources itself makes it look for the
tests outside the project. -/
theorem analyze_moved {analyzer : Analyzer} (hanalyzer : analyzer ∈ bundledAnalyzers)
    {tree tree' : FileTree} {root root' : Path} {project project' : Node} {names : List String}
    {file file' : SourceFile} {content : Content} {modified : Int}
    (hat : project.at? names = some (.file content modified)) (hne : names ≠ [])
    (hsame : project.undated = project'.undated) (h : Lives tree root project names file)
    (h' : Lives tree' root' project' names file') (hrelative : file.relative = file'.relative)
    (hlayer : file.layer = file'.layer) (text : List Char) :
    analyzer.appliesTo file = analyzer.appliesTo file' ∧
    (analyzer.id ≠ "test-coverage" →
      analyzer.analyze tree.hasFile file text = analyzer.analyze tree'.hasFile file' text) ∧
    (analyzer.id = "test-coverage" →
      ((analyzer.analyze tree.hasFile file text).toOption =
          (analyzer.analyze tree'.hasFile file' text).toOption ↔
        Unasked file text ∨ lacksTest? tree.hasFile file = lacksTest? tree'.hasFile file')) ∧
    (Neutral root.names names → Neutral root'.names names → Askable file → Askable file' →
      (analyzer.analyze tree.hasFile file text).toOption =
        (analyzer.analyze tree'.hasFile file' text).toOption) ∧
    ∀ front back, root.names = front ++ "src" :: "main" :: back →
      expectedTests file ≠ [] ∧ ∀ path ∈ expectedTests file, ¬root.names <+: path.names := by
  have hproper : ∀ name ∈ names, ProperName name := fun name hname => ((h.plain.at? hat).2 name hname).1
  have halike : file.Alike file' := by
    refine ⟨?_, hrelative, hlayer⟩
    rw [h.path, h'.path, Path.name, Path.name, Path.under, Path.under, List.getLast?_append_of_ne_nil _ hne,
      List.getLast?_append_of_ne_nil _ hne]
  have hothers : analyzer.id ≠ "test-coverage" →
      analyzer.analyze tree.hasFile file text = analyzer.analyze tree'.hasFile file' text :=
    fun hid => analyze_of_alike halike hanalyzer hid _ _ text
  have htests : analyzer.id = "test-coverage" → analyzer = TestCoverage.analyzer :=
    id_injective_bundled hanalyzer (List.mem_of_getElem? (i := 10) rfl)
  refine ⟨appliesTo_of_alike halike hanalyzer, hothers, fun hid => ?_, ?_, ?_⟩
  · rw [htests hid]
    exact TestCoverage.toOption_analyze_iff halike text tree.hasFile tree'.hasFile
  · intro hneutral hneutral' haskable haskable'
    by_cases hid : analyzer.id = "test-coverage"
    · rw [htests hid]
      exact (TestCoverage.toOption_analyze_iff halike text tree.hasFile tree'.hasFile).2
        (.inr (TestCoverage.lacksTest?_moved hat hne hsame h h' halike hneutral hneutral' haskable
          haskable'))
    · rw [hothers hid]
  · exact fun front back hroot => h.not_prefix_of_main hproper hne hroot

/-! ### A project below main sources

The same view model without a test is reported or not, as the project stands below main sources or not. -/

def mealText : String := "class MealViewModel : ViewModel()\n"

def mealProject : Node := .directory [("MealViewModel.kt", .file (.text mealText) 0)]

/-- A tree with nothing but the project. -/
def mealTree (root : List String) : FileTree :=
  ⟨root.foldr (fun name node => .directory [(name, node)]) mealProject, ⟨1, []⟩⟩

def mealFile (root : List String) : SourceFile :=
  ⟨⟨1, root ++ ["MealViewModel.kt"]⟩, "MealViewModel.kt", 34, 0, none⟩

theorem plain_mealTree {root : List String} (h : ∀ name ∈ root, ProperName name ∧ name ≠ "..") :
    (mealTree root).root.Plain := by
  induction root with
  | nil => exact ⟨List.nodup_singleton _, by decide, trivial, trivial⟩
  | cons name rest ih =>
    rw [List.forall_mem_cons] at h
    exact ⟨List.nodup_singleton _, h.1, ih h.2, trivial⟩

theorem at?_mealTree (root : List String) : (mealTree root).root.at? root = some mealProject := by
  induction root with
  | nil => rfl
  | cons name rest ih =>
    have hroot : (mealTree (name :: rest)).root = .directory [(name, (mealTree rest).root)] := rfl
    rw [hroot, Node.at?_cons_directory, List.lookup_cons_self]
    exact ih

theorem lives_meal {root : List String} (hplain : FileTree.PlainNames root)
    (hproper : ∀ name ∈ root, ProperName name) :
    Lives (mealTree root) ⟨1, root⟩ mealProject ["MealViewModel.kt"] (mealFile root) where
  stands := ⟨rfl, hplain, at?_mealTree root⟩
  plain := plain_mealTree (List.forall_mem_nil _)
  slashes := Nat.le_succ 1
  proper := hproper
  path := rfl

/-- Nothing is found where the tests are expected. -/
theorem lacksTest?_meal : lacksTest? (mealTree ["src", "main", "app"]).hasFile
    (mealFile ["src", "main", "app"]) = some true := by
  have htests : expectedTests (mealFile ["src", "main", "app"]) =
      [["src", "test", "app", "MealViewModelTest.kt"],
        ["src", "androidTest", "app", "MealViewModelTest.kt"]].map (Path.under ⟨1, []⟩) := by
    decide +kernel
  have hplain : (mealTree ["src", "main", "app"]).root.Plain := plain_mealTree (by decide)
  have hstands : (mealTree ["src", "main", "app"]).Stands ⟨1, []⟩ (mealTree ["src", "main", "app"]).root :=
    ⟨rfl, List.forall_mem_nil _, rfl⟩
  rw [lacksTest?, htests, List.isEmpty_map, List.isEmpty_cons, if_neg Bool.false_ne_true,
    @TestCoverage.toOption_anyFile_map _ (fun _ => .ok false) _ (Path.under ⟨1, []⟩) _ ?_]
  · rfl
  · intro names hnames
    rw [hstands.hasFile_under hplain]
    all_goals revert names
    all_goals decide +kernel

theorem analyze_moved_meal :
    Lives (mealTree ["project"]) ⟨1, ["project"]⟩ mealProject ["MealViewModel.kt"]
      (mealFile ["project"]) ∧
    Lives (mealTree ["src", "main", "app"]) ⟨1, ["src", "main", "app"]⟩ mealProject
      ["MealViewModel.kt"] (mealFile ["src", "main", "app"]) ∧
    (TestCoverage.analyzer.analyze (mealTree ["project"]).hasFile (mealFile ["project"])
        mealText.toList).toOption ≠
      (TestCoverage.analyzer.analyze (mealTree ["src", "main", "app"]).hasFile
        (mealFile ["src", "main", "app"]) mealText.toList).toOption := by
  have h := @lives_meal ["project"] (by decide) (by decide)
  have h' := @lives_meal ["src", "main", "app"] (by decide) (by decide)
  refine ⟨h, h', fun hequal => ?_⟩
  obtain ⟨-, -, hiff, -⟩ := @analyze_moved TestCoverage.analyzer (List.mem_of_getElem? (i := 10) rfl)
    _ _ _ _ _ _ _ _ _ _ _ rfl (by decide) rfl h h' rfl rfl mealText.toList
  rcases (hiff rfl).1 hequal with (hsource | hkind) | hlacks
  · exact absurd hsource (by decide +kernel)
  · exact absurd hkind (by decide +kernel)
  · have hnone : expectedTests (mealFile ["project"]) = [] := by decide +kernel
    rw [lacksTest?_meal, lacksTest?, hnone] at hlacks
    cases hlacks

end Rule
end KotlinAudit
