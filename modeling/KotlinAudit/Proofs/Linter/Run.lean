import KotlinAudit.Audit.Run
import KotlinAudit.Proofs.FileTree.Shelf
import KotlinAudit.Proofs.Outcome
import Mathlib.Data.List.Basic

/-! Runs of the external linter with any program behind it. The program may end with any code, leave
anything as its report or not run at all: each of these is an outcome of the run, and the tree alone
decides whether the program is called. -/
namespace KotlinAudit.Linter

variable {resolve : Path → Except FileError Path} {root : Path}

/-! ### Answers -/

namespace Report

/-- The results of one run in a report. -/
def resultsOf (run : Json) : Except ReportFault (List Json) := do
  let run ← fieldsOf run
  itemsOf (orElse (look run "results" (.array [])) (.array []))

/-- The results of all runs in a report, one run after the other. -/
def resultsIn (report : Json) : Except ReportFault (List Json) := do
  let report ← fieldsOf report
  let runs ← itemsOf (orElse (look report "runs" (.array [])) (.array []))
  return (← runs.mapM resultsOf).flatten

/-- The issues of a report are those of its results in the same order; a result without a location
has none. -/
theorem issues_eq_ok {report : Json} {found : List Issue} :
    issues resolve root report = .ok found ↔
      ∃ results issues, resultsIn report = .ok results ∧
        results.mapM (issueOf resolve root) = .ok issues ∧ found = issues.filterMap id := by
  have hrun : (fun run => do
      let run ← fieldsOf run
      let results ← itemsOf (orElse (look run "results" (.array [])) (.array []))
      results.mapM (issueOf resolve root)) =
      fun run => resultsOf run >>= fun results => results.mapM (issueOf resolve root) := by
    funext run
    rw [resultsOf, bind_assoc]
  unfold issues resultsIn
  rw [hrun]
  simp only [Outcome.bind_eq_ok]
  constructor
  · rintro ⟨fields, hfields, runs, hruns, grouped, hgrouped, hfound⟩
    cases hfound
    obtain ⟨parts, hparts, hissues⟩ := Outcome.mapM_parts_eq_ok.1 ⟨grouped, hgrouped, rfl⟩
    exact ⟨_, _, ⟨fields, hfields, runs, hruns, parts, hparts, rfl⟩, hissues, rfl⟩
  · rintro ⟨results, each, ⟨fields, hfields, runs, hruns, parts, hparts, hresults⟩, hissues, rfl⟩
    cases hresults
    obtain ⟨grouped, hgrouped, rfl⟩ := Outcome.mapM_parts_eq_ok.2 ⟨parts, hparts, hissues⟩
    exact ⟨fields, hfields, runs, hruns, grouped, hgrouped, rfl⟩

end Report

/-- What an answer tells about issues. The linter has done its work, and its report is blank or a
document that issues can be read off. -/
inductive Answer.Tells (resolve : Path → Except FileError Path) (root : Path) (answer : Answer) :
    List Issue → Prop
  | nothing {text : String} (hcode : answer.exitCode = 0 ∨ answer.exitCode = 2)
      (hreport : answer.report = some (.text text)) (hblank : Text.trim text.toList = []) :
      Tells resolve root answer []
  | issues {text : String} {json : Json} {found : List Issue}
      (hcode : answer.exitCode = 0 ∨ answer.exitCode = 2)
      (hreport : answer.report = some (.text text)) (hfull : Text.trim text.toList ≠ [])
      (hjson : Json.read .document text.toList = .ok json)
      (hfound : Report.issues resolve root json = .ok found) : Tells resolve root answer found

theorem mem_successCodes {code : Int} : code ∈ successCodes ↔ code = 0 ∨ code = 2 := by
  simp [successCodes]

/-- The outcome of an answer is what it tells, and a fault of its own where it tells nothing. -/
theorem Answer.issues_eq_ok {answer : Answer} {found : List Issue} :
    answer.issues resolve root = .ok found ↔ answer.Tells resolve root found := by
  constructor
  · intro h
    unfold Answer.issues at h
    split_ifs at h with hcode
    have hdone := mem_successCodes.1 (by simpa using hcode)
    split at h
    · cases h
    · cases h
    · next text hreport =>
      split_ifs at h with hblank
      · cases h
        exact .nothing hdone hreport (List.isEmpty_iff.1 hblank)
      · cases hjson : Json.read .document text.toList with
        | error fault =>
          rw [hjson] at h
          cases h
        | ok json =>
          rw [hjson] at h
          dsimp only at h
          cases hissues : Report.issues resolve root json with
          | error fault =>
            rw [hissues] at h
            cases h
          | ok issues =>
            rw [hissues] at h
            cases h
            exact .issues hdone hreport (mt List.isEmpty_iff.2 hblank) hjson hissues
  · intro h
    cases h with
    | nothing hcode hreport hblank =>
      simp [Answer.issues, mem_successCodes.2 hcode, hreport, hblank]
    | issues hcode hreport hfull hjson hfound =>
      simp [Answer.issues, mem_successCodes.2 hcode, hreport, hfull, hjson, hfound]

/-- What is wrong with an answer is never that a path could not be asked for. -/
theorem Answer.issues_ne_place {answer : Answer} {error : FileError} :
    answer.issues resolve root ≠ .error (.place error) := by
  intro h
  unfold Answer.issues at h
  repeat' split at h
  all_goals cases h

/-! ### Runs -/

namespace Setup

/-- The paths of a run that are in a tree. -/
def present (setup : Setup) (tree : FileTree) (paths : List Path) : List Path :=
  (paths.map setup.root.join).filter fun path => (tree.has path).toOption.getD false

theorem presentPaths_eq_ok {tree : FileTree} {paths : List Path}
    (h : ∀ path ∈ paths, ∃ found, tree.has path = .ok found) :
    (presentPaths tree paths).2 =
      .ok (paths.filter fun path => (tree.has path).toOption.getD false) := by
  induction paths with
  | nil => rfl
  | cons path rest ih =>
    obtain ⟨⟨found, hfound⟩, hrest⟩ := List.forall_mem_cons.1 h
    unfold presentPaths
    rw [List.filter_cons, hfound]
    cases found with
    | true =>
      dsimp only
      rw [ih hrest]
      rfl
    | false => exact ih hrest

theorem presentPaths_eq_present {setup : Setup} {tree : FileTree} {paths : List Path}
    (h : ∀ path ∈ paths, ∃ found, tree.has (setup.root.join path) = .ok found) :
    (presentPaths tree (paths.map setup.root.join)).2 = .ok (setup.present tree paths) := by
  refine presentPaths_eq_ok fun path hpath => ?_
  obtain ⟨other, hother, rfl⟩ := List.mem_map.1 hpath
  exact h other hother

/-- What a run comes to, read off the tree. -/
def outcome (setup : Setup) (runner : Runner) (tree : FileTree) (paths : List Path)
    (config : Path) : Except Fault (List Issue) :=
  match tree.hasFile (setup.root.join config) with
  | .error error => .error (.place error)
  | .ok false => .error (.noConfig (setup.root.join config))
  | .ok true =>
    match (presentPaths tree (paths.map setup.root.join)).2 with
    | .error error => .error (.place error)
    | .ok [] => .ok []
    | .ok (path :: rest) => do
      let answer ← (runner tree (setup.command (path :: rest) (setup.root.join config))).mapError
        (.run setup.executable)
      answer.issues tree.resolve setup.root

/-- The commands that a run calls, read off the tree. -/
def calls (setup : Setup) (tree : FileTree) (paths : List Path) (config : Path) : List Command :=
  match tree.hasFile (setup.root.join config),
    (presentPaths tree (paths.map setup.root.join)).2 with
  | .ok true, .ok (path :: rest) => [setup.command (path :: rest) (setup.root.join config)]
  | _, _ => []

variable (setup : Setup) (runner : Runner) (paths : List Path) (config : Path)

/-- A run changes nothing but the protocol. -/
theorem run_eq (workspace : Workspace) :
    ∃ notices, (setup.run runner paths config).run workspace =
      (setup.outcome runner workspace.tree paths config,
        { workspace with
          notices := notices
          commands := workspace.commands ++ setup.calls workspace.tree paths config }) := by
  unfold run outcome calls
  rw [StateT.run_bind, StateT.run_get, pure_bind]
  dsimp only
  generalize workspace.tree.hasFile (setup.root.join config) = asked
  generalize presentPaths workspace.tree (paths.map setup.root.join) = found
  obtain ⟨notices, outcome⟩ := found
  match asked, outcome with
  | .error error, _ => exact ⟨workspace.notices, by rw [List.append_nil]; rfl⟩
  | .ok false, _ => exact ⟨workspace.notices, by rw [List.append_nil]; rfl⟩
  | .ok true, .error error => exact ⟨workspace.notices ++ notices, by rw [List.append_nil]; rfl⟩
  | .ok true, .ok [] => exact ⟨workspace.notices ++ notices, by rw [List.append_nil]; rfl⟩
  | .ok true, .ok (path :: rest) =>
    dsimp only
    generalize setup.command (path :: rest) (setup.root.join config) = command
    cases runner workspace.tree command with
    | error fault => exact ⟨_, rfl⟩
    | ok answer =>
      change ∃ _, _ = (answer.issues workspace.tree.resolve setup.root, _)
      dsimp only
      cases answer.issues workspace.tree.resolve setup.root with
      | error fault => exact ⟨_, rfl⟩
      | ok issues => exact ⟨_, rfl⟩

section Answered

variable {setup runner paths config} {tree : FileTree} {there : Bool}

/-- A run comes to issues where its configuration is there, and either there is nothing to look at or
the program's answer tells them. -/
theorem outcome_eq_ok (hconfig : tree.hasFile (setup.root.join config) = .ok there)
    (hpaths : ∀ path ∈ paths, ∃ found, tree.has (setup.root.join path) = .ok found)
    {issues : List Issue} :
    setup.outcome runner tree paths config = .ok issues ↔
      there = true ∧
        (setup.present tree paths = [] ∧ issues = [] ∨
          setup.present tree paths ≠ [] ∧ ∃ answer,
            runner tree (setup.command (setup.present tree paths) (setup.root.join config)) =
              .ok answer ∧ answer.Tells tree.resolve setup.root issues) := by
  unfold outcome
  rw [hconfig, presentPaths_eq_present hpaths]
  cases there with
  | false => simp
  | true =>
    cases setup.present tree paths with
    | nil => simp [eq_comm]
    | cons path rest => simp [Outcome.bind_eq_ok, Outcome.mapError_eq_ok, Answer.issues_eq_ok]

theorem outcome_ne_place (hconfig : tree.hasFile (setup.root.join config) = .ok there)
    (hpaths : ∀ path ∈ paths, ∃ found, tree.has (setup.root.join path) = .ok found)
    {error : FileError} : setup.outcome runner tree paths config ≠ .error (.place error) := by
  unfold outcome
  rw [hconfig, presentPaths_eq_present hpaths]
  cases there with
  | false => simp
  | true =>
    cases setup.present tree paths with
    | nil => simp
    | cons path rest =>
      dsimp only
      cases runner tree (setup.command (path :: rest) (setup.root.join config)) with
      | error fault => simp [Except.mapError, bind, Except.bind]
      | ok answer => exact Answer.issues_ne_place

theorem calls_eq (hconfig : tree.hasFile (setup.root.join config) = .ok there)
    (hpaths : ∀ path ∈ paths, ∃ found, tree.has (setup.root.join path) = .ok found) :
    setup.calls tree paths config =
      if there && !(setup.present tree paths).isEmpty then
        [setup.command (setup.present tree paths) (setup.root.join config)]
      else [] := by
  unfold calls
  rw [hconfig, presentPaths_eq_present hpaths]
  cases there with
  | false => rfl
  | true => cases setup.present tree paths <;> rfl

end Answered

/-- Programs that answer alike where they are called make runs come to the same. -/
theorem outcome_congr {tree : FileTree} {other : Runner}
    (h : ∀ command ∈ setup.calls tree paths config, other tree command = runner tree command) :
    setup.outcome other tree paths config = setup.outcome runner tree paths config := by
  unfold calls at h
  unfold outcome
  generalize tree.hasFile (setup.root.join config) = asked at h ⊢
  generalize (presentPaths tree (paths.map setup.root.join)).2 = found at h ⊢
  match asked, found with
  | .error _, _ => rfl
  | .ok false, _ => rfl
  | .ok true, .error _ => rfl
  | .ok true, .ok [] => rfl
  | .ok true, .ok (path :: rest) =>
    dsimp only at h ⊢
    rw [h _ (List.mem_singleton_self _)]

/-- What a run finds is its issues as findings, nothing where it has none for a fault. Beside the
protocol it changes nothing. -/
theorem run_external (workspace : Workspace) :
    ∃ notices, (setup.external runner paths config).run workspace =
      (((setup.outcome runner workspace.tree paths config).map (·.map Issue.finding)).mapError
          fun fault => .stated fault.message,
        { workspace with
          notices := notices
          commands := workspace.commands ++ setup.calls workspace.tree paths config }) := by
  obtain ⟨notices, hrun⟩ := setup.run_eq runner paths config workspace
  refine ⟨notices, ?_⟩
  unfold external
  rw [StateT.run_bind, hrun]
  cases setup.outcome runner workspace.tree paths config with
  | error fault => rfl
  | ok issues => rfl

theorem run_external_fst (workspace : Workspace) :
    ((setup.external runner paths config).run workspace).1 =
      ((setup.outcome runner workspace.tree paths config).map (·.map Issue.finding)).mapError
        fun fault => .stated fault.message := by
  obtain ⟨notices, hrun⟩ := setup.run_external runner paths config workspace
  rw [hrun]

/-- Where the tree can be asked about its configuration and its paths, a run comes to an end for
every program, never by a path that could not be asked for. It has issues exactly if the
configuration is there and either none of the paths is, or the program ends with zero or two and
leaves a report that is blank or can be read; the issues are those of the report, and the findings are
made of them in their order. Otherwise it has a fault and no findings. The program is called once,
with the paths that are there, or not at all where the configuration or all of the paths are missing;
what it would do elsewhere makes no difference. -/
theorem run_settled {workspace : Workspace} {there : Bool}
    (hconfig : workspace.tree.hasFile (setup.root.join config) = .ok there)
    (hpaths : ∀ path ∈ paths, ∃ found, workspace.tree.has (setup.root.join path) = .ok found) :
    ∃ outcome notices,
      (setup.run runner paths config).run workspace =
        (outcome, { workspace with
          notices := notices
          commands := workspace.commands ++
            if there && !(setup.present workspace.tree paths).isEmpty then
              [setup.command (setup.present workspace.tree paths) (setup.root.join config)]
            else [] }) ∧
      (∀ error, outcome ≠ .error (.place error)) ∧
      (∀ issues, outcome = .ok issues ↔
        there = true ∧
          (setup.present workspace.tree paths = [] ∧ issues = [] ∨
            setup.present workspace.tree paths ≠ [] ∧ ∃ answer,
              runner workspace.tree (setup.command (setup.present workspace.tree paths)
                (setup.root.join config)) = .ok answer ∧
                answer.Tells workspace.tree.resolve setup.root issues)) ∧
      (∀ other : Runner,
        (there = true → setup.present workspace.tree paths ≠ [] →
          other workspace.tree (setup.command (setup.present workspace.tree paths)
              (setup.root.join config)) =
            runner workspace.tree (setup.command (setup.present workspace.tree paths)
              (setup.root.join config))) →
        ((setup.run other paths config).run workspace).1 = outcome) ∧
      ((setup.external runner paths config).run workspace).1 =
        (outcome.map (·.map Issue.finding)).mapError fun fault => .stated fault.message := by
  obtain ⟨notices, hrun⟩ := setup.run_eq runner paths config workspace
  have hcalls := calls_eq hconfig hpaths
  rw [hcalls] at hrun
  refine ⟨_, notices, hrun, fun error => outcome_ne_place hconfig hpaths,
    fun issues => outcome_eq_ok hconfig hpaths, fun other hother => ?_,
    setup.run_external_fst runner paths config workspace⟩
  obtain ⟨said, hotherRun⟩ := setup.run_eq other paths config workspace
  rw [hotherRun]
  refine setup.outcome_congr runner paths config fun command hcommand => ?_
  rw [hcalls] at hcommand
  split_ifs at hcommand with hasked
  · rw [Bool.and_eq_true, Bool.not_eq_true', List.isEmpty_eq_false_iff] at hasked
    rw [List.mem_singleton.1 hcommand]
    exact hother hasked.1 hasked.2
  · cases hcommand

/-! ### A run over a project of one file -/

def sample : Setup := ⟨⟨1, ["p"]⟩, "detekt", none, [], []⟩

def sampleTree : FileTree where
  root := .directory [("p", .directory [("A.kt", .file (.text "class A\n") 0),
    ("detekt.yml", .file (.text "") 0)])]
  here := ⟨1, ["p"]⟩

/-- The result that a report has about the file. -/
def sampleResult : Json :=
  .object [("locations", .array [.object [("physicalLocation",
    .object [("artifactLocation", .object [("uri", .text "A.kt")])])]])]

def sampleReport : String :=
  "\x7b\"runs\":[\x7b\"results\":[\x7b\"locations\":[\x7b\"physicalLocation\":\x7b\"artifactLocation\":" ++
    "\x7b\"uri\":\"A.kt\"\x7d\x7d\x7d]\x7d]\x7d]\x7d"

def sampleIssue : Issue := ⟨"", "", .warning, "", "A.kt", 1, none, 20, ""⟩

theorem sample_issueOf : Report.issueOf resolve root sampleResult = .ok (some sampleIssue) := by
  have hpath : relativePath resolve root "A.kt" = .ok "A.kt" := by
    unfold relativePath
    rw [show pathOf? "A.kt" = some ⟨0, ["A.kt"]⟩ from by decide +kernel]
    rfl
  unfold Report.issueOf sampleResult
  change (relativePath resolve root "A.kt").mapError _ >>= _ = _
  rw [hpath]
  rfl

/-- The report has one run with one result. -/
theorem sample_read : Json.read .document sampleReport.toList =
    .ok (.object [("runs", .array [.object [("results", .array [sampleResult])]])]) := rfl

theorem sample_tells : Answer.Tells resolve root ⟨2, "", some (.text sampleReport)⟩ [sampleIssue] := by
  have hissues : [sampleResult].mapM (Report.issueOf resolve root) = .ok [some sampleIssue] := by
    rw [List.mapM_cons, sample_issueOf]
    rfl
  exact .issues (.inr rfl) rfl (by decide) sample_read
    (Report.issues_eq_ok.2 ⟨[sampleResult], [some sampleIssue], rfl, hissues, rfl⟩)

def sampleRunner : Runner := fun _ _ => .ok ⟨2, "", some (.text sampleReport)⟩

def samplePaths : List Path := [⟨0, ["A.kt"]⟩, ⟨0, ["B.kt"]⟩]

theorem sample_missing : sampleTree.has ⟨1, ["p", "B.kt"]⟩ = .ok false := by
  have hroot : sampleTree.node ⟨1, ["p"]⟩ = .ok (.directory
      [("A.kt", .file (.text "class A\n") 0), ("detekt.yml", .file (.text "") 0)]) :=
    FileTree.node_of_at? (by decide) (by decide) (fun _ h => by cases h) rfl
  have hname : sampleTree.Admits ⟨1, ["p"]⟩ "B.kt" := ⟨by decide, by decide, by decide⟩
  have hnode := FileTree.node_child hroot hname (fun link h => by cases h)
  unfold FileTree.has FileTree.node?
  rw [show (⟨1, ["p", "B.kt"]⟩ : Path) = Path.child ⟨1, ["p"]⟩ "B.kt" from rfl, hnode]
  rfl

theorem sample_config : sampleTree.hasFile ⟨1, ["p", "detekt.yml"]⟩ = .ok true := by
  have hnode : sampleTree.node ⟨1, ["p", "detekt.yml"]⟩ = .ok (.file (.text "") 0) :=
    FileTree.node_of_at? (by decide) (by decide) (fun _ h => by cases h) rfl
  unfold FileTree.hasFile FileTree.node?
  rw [hnode]
  rfl

theorem sample_source : sampleTree.has ⟨1, ["p", "A.kt"]⟩ = .ok true := by
  have hnode : sampleTree.node ⟨1, ["p", "A.kt"]⟩ = .ok (.file (.text "class A\n") 0) :=
    FileTree.node_of_at? (by decide) (by decide) (fun _ h => by cases h) rfl
  unfold FileTree.has FileTree.node?
  rw [hnode]
  rfl

theorem sample_present : sample.present sampleTree samplePaths = [⟨1, ["p", "A.kt"]⟩] := by
  change List.filter _ [(⟨1, ["p", "A.kt"]⟩ : Path), ⟨1, ["p", "B.kt"]⟩] = _
  rw [List.filter_cons, List.filter_cons, sample_source, sample_missing]
  rfl

/-- Of two paths the one that is there has an issue. -/
theorem run_settled_sample :
    sampleTree.hasFile (sample.root.join ⟨0, ["detekt.yml"]⟩) = .ok true ∧
    (∀ path ∈ samplePaths, ∃ found, sampleTree.has (sample.root.join path) = .ok found) ∧
    ∃ notices, (sample.run sampleRunner samplePaths ⟨0, ["detekt.yml"]⟩).run
        (.ofTree sampleTree ⟨0, 1⟩) =
      (.ok [sampleIssue], { Workspace.ofTree sampleTree ⟨0, 1⟩ with
        notices := notices
        commands := [sample.command [⟨1, ["p", "A.kt"]⟩] ⟨1, ["p", "detekt.yml"]⟩] }) := by
  have hpaths : ∀ path ∈ samplePaths, ∃ found, sampleTree.has (sample.root.join path) = .ok found := by
    intro path hpath
    simp only [samplePaths, List.mem_cons, List.not_mem_nil, or_false] at hpath
    rcases hpath with rfl | rfl
    · exact ⟨true, sample_source⟩
    · exact ⟨false, sample_missing⟩
  refine ⟨sample_config, hpaths, ?_⟩
  have hconfig : (Workspace.ofTree sampleTree ⟨0, 1⟩).tree.hasFile
      (sample.root.join ⟨0, ["detekt.yml"]⟩) = .ok true := sample_config
  obtain ⟨outcome, notices, hrun, -, hok, -⟩ := run_settled sample sampleRunner samplePaths
    ⟨0, ["detekt.yml"]⟩ hconfig hpaths
  have hpresent : sample.present (Workspace.ofTree sampleTree ⟨0, 1⟩).tree samplePaths =
      [⟨1, ["p", "A.kt"]⟩] := sample_present
  rw [hpresent] at hrun hok
  have houtcome := (hok [sampleIssue]).2
    ⟨rfl, .inr ⟨List.cons_ne_nil _ _, _, rfl, sample_tells⟩⟩
  rw [houtcome] at hrun
  exact ⟨notices, hrun⟩
end Setup
end KotlinAudit.Linter
