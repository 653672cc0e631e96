import KotlinAudit.Audit.Pool
import KotlinAudit.Audit.Run
import KotlinAudit.Proofs.Keyed
import KotlinAudit.Proofs.Linter.Run
import Mathlib.Data.List.Induction
import Mathlib.Data.List.Perm.Basic

/-! What the files of a plan and the external linter contribute to a run. A pool of workers makes the same
of its tasks whichever of them ends first: each step moves tasks from one stage to the next and loses
none. A failure takes away what it strikes and nothing else: an unreadable file, one analyzer on one file,
or the external linter. -/
namespace KotlinAudit

namespace Audit

namespace Pool

variable {α β : Type}

/-- The tasks that have not ended. -/
def left (pool : Pool α β) : List (Nat × α) := pool.running ++ pool.waiting

/-- The results that a pool comes to: those it has, and those of the tasks that have not ended. -/
def outcomes (work : α → β) (pool : Pool α β) : List (Nat × β) :=
  pool.finished ++ pool.left.map fun (number, task) => (number, work task)

@[simp] theorem left_fill (workers : Nat) (pool : Pool α β) :
    (pool.fill workers).left = pool.left := by
  simp [fill, left]

@[simp] theorem finished_fill (workers : Nat) (pool : Pool α β) :
    (pool.fill workers).finished = pool.finished := rfl

/-- With a worker at hand a task is under way as long as one is left. -/
theorem running_fill_ne_nil {workers : Nat} (hw : 1 ≤ workers) {pool : Pool α β}
    (h : pool.left ≠ []) : (pool.fill workers).running ≠ [] := by
  intro hnil
  simp only [fill, List.append_eq_nil_iff, List.take_eq_nil_iff] at hnil
  obtain ⟨hrunning, hwaiting⟩ := hnil
  rw [hrunning, List.length_nil] at hwaiting
  rcases hwaiting with hzero | hwaiting
  · omega
  · exact h (by rw [left, hrunning, hwaiting, List.append_nil])

/-- A task that ends goes from those under way to those finished. -/
theorem finish_of_running (work : α → β) (turn : Nat) {pool : Pool α β} (h : pool.running ≠ []) :
    ∃ number task, pool.running.Perm ((number, task) :: (pool.finish work turn).running) ∧
      (pool.finish work turn).finished = pool.finished ++ [(number, work task)] ∧
      (pool.finish work turn).waiting = pool.waiting := by
  have hlt : turn % pool.running.length < pool.running.length :=
    Nat.mod_lt _ (List.length_pos_iff.2 h)
  obtain ⟨⟨number, task⟩, htask⟩ :
      ∃ entry, pool.running[turn % pool.running.length]? = some entry :=
    ⟨_, List.getElem?_eq_getElem hlt⟩
  refine ⟨number, task, ?_, ?_, ?_⟩
  · simp only [finish, htask]
    rw [List.getElem?_eq_getElem hlt, Option.some.injEq] at htask
    rw [← htask]
    exact (List.getElem_cons_eraseIdx_perm hlt).symm
  · simp only [finish, htask]
  · simp only [finish, htask]

/-- One step: the outcomes stay, and one task less is left. -/
theorem step_outcomes {workers : Nat} (hw : 1 ≤ workers) (work : α → β) (turn : Nat)
    {pool : Pool α β} (h : pool.left ≠ []) :
    ((pool.step workers work turn).outcomes work).Perm (pool.outcomes work) ∧
      (pool.step workers work turn).left.length + 1 = pool.left.length := by
  obtain ⟨number, task, hrunning, hfinished, hwaiting⟩ :=
    finish_of_running work turn (running_fill_ne_nil hw h)
  have hopen : pool.left.Perm ((number, task) :: (pool.step workers work turn).left) := by
    rw [← left_fill workers pool, left, left, step, hwaiting]
    exact hrunning.append_right _
  constructor
  · have hresults := hopen.map fun (number, task) => (number, work task)
    rw [List.map_cons] at hresults
    rw [outcomes, outcomes, step, hfinished, finished_fill, List.append_assoc]
    exact (hresults.append_left _).symm
  · rw [hopen.length_eq, List.length_cons]

/-- A whole run: the outcomes stay, and no task is left. -/
theorem run_outcomes {workers : Nat} (hw : 1 ≤ workers) (work : α → β) :
    ∀ (count : Nat) (turns : List Nat) (pool : Pool α β), pool.left.length = count →
      ((run workers work count turns pool).outcomes work).Perm (pool.outcomes work) ∧
        (run workers work count turns pool).left = []
  | 0, _, _, hcount => ⟨.refl _, List.eq_nil_of_length_eq_zero hcount⟩
  | count + 1, turns, pool, hcount => by
    have hne : pool.left ≠ [] := List.ne_nil_of_length_eq_add_one hcount
    obtain ⟨hstep, hlength⟩ := step_outcomes hw work (turns.headD 0) hne
    obtain ⟨hrun, hopen⟩ := run_outcomes hw work count turns.tail
      (pool.step workers work (turns.headD 0)) (by omega)
    exact ⟨hrun.trans hstep, hopen⟩

theorem outcomes_ofTasks (work : α → β) (tasks : List α) :
    (ofTasks tasks : Pool α β).outcomes work =
      tasks.zipIdx.map fun (task, number) => (number, work task) := by
  simp [ofTasks, outcomes, left, Function.comp_def]

theorem map_fst_zipIdx (work : α → β) (tasks : List α) :
    (tasks.zipIdx.map fun (task, number) => (number, work task)).map Prod.fst =
      List.range tasks.length := by
  rw [List.map_map, List.range_eq_range', ← List.zipIdx_map_snd 0 tasks]
  rfl

theorem filterMap_getElem?_range (items : List α) :
    (List.range items.length).filterMap (items[·]?) = items := by
  induction items using List.reverseRecOn with
  | nil => rfl
  | append_singleton items item ih =>
    have hfront : ∀ place ∈ List.range items.length, (items ++ [item])[place]? = items[place]? :=
      fun place hplace => List.getElem?_append_left (List.mem_range.1 hplace)
    rw [List.length_append, List.length_singleton, List.range_succ, List.filterMap_append,
      List.filterMap_congr hfront, ih]
    simp

/-- The results of a pool of workers are those of the tasks in their order, whatever task ends
first. -/
theorem results_run {workers : Nat} (hw : 1 ≤ workers) (work : α → β) (turns : List Nat)
    (tasks : List α) :
    (run workers work tasks.length turns (.ofTasks tasks)).results tasks.length =
      tasks.map work := by
  obtain ⟨hperm, hopen⟩ := run_outcomes hw work tasks.length turns (.ofTasks tasks)
    (by simp [ofTasks, left])
  rw [outcomes_ofTasks, outcomes, hopen, List.map_nil, List.append_nil] at hperm
  have hn : ((run workers work tasks.length turns (.ofTasks tasks)).finished.map Prod.fst).Nodup := by
    rw [(hperm.map Prod.fst).nodup_iff, map_fst_zipIdx]
    exact List.nodup_range
  have hlookup : ∀ number ∈ List.range (tasks.map work).length,
      (run workers work tasks.length turns (.ofTasks tasks)).finished.lookup number =
        (tasks.map work)[number]? := by
    intro number hnumber
    have hlt : number < tasks.length := by simpa using hnumber
    rw [List.getElem?_map, List.getElem?_eq_getElem hlt, Option.map_some]
    apply Keyed.lookup_of_mem hn
    rw [hperm.mem_iff, List.mem_map]
    exact ⟨(tasks[number], number), List.mk_mem_zipIdx_iff_getElem?.2 (by simp [hlt]), rfl⟩
  have hfound := List.filterMap_congr hlookup
  rw [filterMap_getElem?_range, List.length_map] at hfound
  exact hfound

end Pool

/-- The findings of an analyzer that is concerned with a file and does not fail on it. -/
def found (isFile : FileTest) (file : SourceFile) (text : List Char) (analyzer : Analyzer) :
    List Finding :=
  match analyzer.appliesTo file with
  | .ok true => (analyzer.analyze isFile file text).toOption.getD []
  | .ok false | .error _ => []

/-- The findings in a file that can be read, analyzer by analyzer. -/
def foundIn (read : SourceReader) (analyzers : List Analyzer) (tree : FileTree)
    (file : SourceFile) : List Finding :=
  match read tree file with
  | .ok text => analyzers.flatMap (found tree.hasFile file text)
  | .error _ => []

/-- What the external linter answers, if there is one and it is asked about anything. -/
def lintAnswer (audit : Audit) (targets : List Path) (workspace : Workspace) :
    Except Failure (List Finding) :=
  match audit.linter, targets with
  | none, _ | _, [] => .ok []
  | some linter, targets => ((linter targets audit.config.linterConfigPath).run workspace).1

/-- The workspace as the external linter leaves it. -/
def afterLinter (audit : Audit) (targets : List Path) (workspace : Workspace) : Workspace :=
  match audit.linter, targets with
  | none, _ | _, [] => workspace
  | some linter, targets => ((linter targets audit.config.linterConfigPath).run workspace).2

theorem findings_contribution (isFile : FileTest) (file : SourceFile) (text : List Char)
    (analyzer : Analyzer) :
    (contribution isFile file text analyzer).findings = found isFile file text analyzer := by
  unfold contribution examine found
  cases analyzer.appliesTo file with
  | error failure => rfl
  | ok applies =>
    cases applies with
    | false => rfl
    | true =>
      dsimp only
      cases analyzer.analyze isFile file text with
      | error failure => rfl
      | ok findings => cases findings <;> rfl

theorem findings_all (inspections : List Inspection) :
    (Inspection.all inspections).findings = inspections.flatMap (·.findings) := by
  induction inspections with
  | nil => rfl
  | cons first rest ih =>
    rw [Inspection.all, List.foldr_cons, ← Inspection.all, Inspection.andThen, ih,
      List.flatMap_cons]

/-- The inspection of a file has the findings of each analyzer that does not fail on it. -/
theorem findings_inspect (read : SourceReader) (analyzers : List Analyzer) (tree : FileTree)
    (file : SourceFile) :
    (inspect read analyzers tree file).findings = foundIn read analyzers tree file := by
  unfold inspect foundIn
  cases read tree file with
  | error failure => rfl
  | ok text =>
    simp only [findings_all, List.flatMap_map, findings_contribution]

/-- Files are inspected in their order for any count of jobs and any order of completion. -/
theorem inspections_fst (jobs : Int) (turns : List Nat) (work : SourceFile → Inspection)
    (files : List SourceFile) : (inspections jobs turns work files).1 = files.map work := by
  unfold inspections
  split_ifs with h
  · rfl
  · have hjobs : 1 ≤ jobs.toNat := by
      simp only [Bool.or_eq_true, decide_eq_true_eq, not_or] at h
      omega
    exact Pool.results_run hjobs work turns files

/-- Inspecting files changes nothing but the protocol. -/
theorem run_inspectAll (audit : Audit) (analyzers : List Analyzer) (files : List SourceFile)
    (workspace : Workspace) :
    ∃ notices phases, (audit.inspectAll analyzers files).run workspace =
      (files.flatMap (foundIn audit.read analyzers workspace.tree),
        { workspace with notices := notices, phases := phases }) := by
  have hfound : (inspections audit.config.execution.jobs workspace.turns
      (inspect audit.read analyzers workspace.tree) files).1.flatMap (·.findings) =
      files.flatMap (foundIn audit.read analyzers workspace.tree) := by
    rw [inspections_fst, List.flatMap_map]
    simp only [findings_inspect]
  rw [← hfound]
  exact ⟨_, _, rfl⟩

/-- The external linter contributes what it answers, and nothing when it fails; what is said about
that changes nothing else. -/
theorem run_lint (audit : Audit) (targets : List Path) (workspace : Workspace) :
    ∃ notices, (audit.lint targets).run workspace =
      ((audit.lintAnswer targets workspace).toOption.getD [],
        { audit.afterLinter targets workspace with notices := notices }) := by
  unfold lint lintAnswer afterLinter
  cases audit.linter with
  | none => exact ⟨_, rfl⟩
  | some linter =>
    cases targets with
    | nil => exact ⟨_, rfl⟩
    | cons target rest =>
      simp only [StateT.run_bind]
      obtain ⟨answer, after⟩ :=
        (linter (target :: rest) audit.config.linterConfigPath).run workspace
      cases answer with
      | error failure => exact ⟨_, rfl⟩
      | ok findings => exact ⟨_, rfl⟩

/-- The files come first, in their order, then the external linter. -/
theorem run_gather (audit : Audit) (plan : Plan) (workspace : Workspace) :
    ∃ notices phases said, (audit.gather plan).run workspace =
      (plan.files.flatMap (foundIn audit.read plan.analyzers workspace.tree) ++
        (audit.lintAnswer plan.lintTargets
          { workspace with notices := notices, phases := phases }).toOption.getD [],
        { audit.afterLinter plan.lintTargets
            { workspace with notices := notices, phases := phases } with notices := said }) := by
  obtain ⟨notices, phases, hinspect⟩ :=
    audit.run_inspectAll plan.analyzers plan.files workspace
  obtain ⟨said, hlint⟩ :=
    audit.run_lint plan.lintTargets { workspace with notices := notices, phases := phases }
  refine ⟨notices, phases, said, ?_⟩
  unfold gather
  rw [StateT.run_bind, hinspect]
  change StateT.run (audit.lint plan.lintTargets >>= _) _ = _
  rw [StateT.run_bind, hlint]
  rfl

/-- The workspace in which an execution starts to inspect files. -/
def announced (plan : Plan) (workspace : Workspace) : Workspace :=
  let notice : Notice := .info ("Analyzing " ++ toString plan.files.length ++ " file(s) with " ++
    toString plan.analyzers.length ++ " analyzer(s)")
  { workspace with
    notices := workspace.notices ++ [notice]
    phases := workspace.phases ++ [.discovered plan.files.length] }

/-- An execution gathers findings and concludes with them, whatever has failed on the way. -/
theorem run_execute (audit : Audit) (plan : Plan) (workspace : Workspace) :
    (audit.execute plan).run.run workspace =
      (audit.conclude plan ((audit.gather plan).run (announced plan workspace)).1).run.run
        ((audit.gather plan).run (announced plan workspace)).2 := rfl

/-- The findings are put together; where that fails, the run ends with the error. -/
theorem run_conclude (audit : Audit) (plan : Plan) (findings : List Finding)
    (workspace : Workspace) :
    (audit.conclude plan findings).run.run workspace =
      match Aggregate.ofFindings findings with
      | .error error => (.error (.metrics error), workspace)
      | .ok aggregate => (audit.deliver plan aggregate).run.run workspace := by
  unfold conclude
  cases Aggregate.ofFindings findings <;> rfl

/-- The audit with another count of jobs. -/
def withJobs (audit : Audit) (jobs : Int) : Audit :=
  { audit with config := { audit.config with
      execution := { audit.config.execution with jobs := jobs } } }

end Audit

/-- An external linter that is not concerned with what was said before: its answer and what it leaves
behind depend on the tree and the clock alone. -/
def ExternalLinter.Neutral (linter : ExternalLinter) : Prop :=
  ∀ (targets : List Path) (config : Path) {workspace other : Workspace},
    workspace.tree = other.tree → workspace.clock = other.clock →
      ((linter targets config).run workspace).1 = ((linter targets config).run other).1 ∧
      ((linter targets config).run workspace).2.tree = ((linter targets config).run other).2.tree ∧
      ((linter targets config).run workspace).2.clock = ((linter targets config).run other).2.clock

/-- A command changes neither the tree nor the clock, and it is called in view of the tree. -/
theorem Linter.Setup.neutral_external (setup : Linter.Setup) (runner : Linter.Runner) :
    (setup.external runner).Neutral := by
  intro targets config workspace other htree hclock
  obtain ⟨notices, hrun⟩ := setup.run_external runner targets config workspace
  obtain ⟨said, hother⟩ := setup.run_external runner targets config other
  rw [hrun, hother, htree]
  exact ⟨rfl, rfl, hclock⟩

namespace Audit

theorem lint_congr {audit : Audit} (hneutral : ∀ linter, audit.linter = some linter → linter.Neutral)
    (targets : List Path) {workspace other : Workspace} (htree : workspace.tree = other.tree)
    (hclock : workspace.clock = other.clock) :
    audit.lintAnswer targets workspace = audit.lintAnswer targets other ∧
      (audit.afterLinter targets workspace).tree = (audit.afterLinter targets other).tree ∧
      (audit.afterLinter targets workspace).clock = (audit.afterLinter targets other).clock := by
  unfold lintAnswer afterLinter
  cases hlinter : audit.linter with
  | none => exact ⟨rfl, htree, hclock⟩
  | some linter =>
    cases targets with
    | nil => exact ⟨rfl, htree, hclock⟩
    | cons target rest => exact hneutral linter hlinter _ _ htree hclock

/-- An execution always comes to its conclusion, and what it puts together there are the findings of
every analyzer on every file that can be read, in the order of the files and for each file in the
order of the analyzers, where the analyzer is concerned and does not fail, followed by the findings of
the external linter, if it does not fail. Neither the count of jobs nor the order in which the files
are done changes them: where the linter does not look at what was said, the same findings are put
together, in the same tree and at the same time, for all counts and orders. -/
theorem execute_eq_conclude (audit : Audit) (plan : Plan) (jobs : Int) (turns : List Nat)
    (workspace : Workspace) :
    ∃ asked findings after,
      (∃ notices phases, asked =
        { workspace with turns := turns, notices := notices, phases := phases }) ∧
      findings = plan.files.flatMap (foundIn audit.read plan.analyzers workspace.tree) ++
        (audit.lintAnswer plan.lintTargets asked).toOption.getD [] ∧
      (∃ notices, after = { audit.afterLinter plan.lintTargets asked with notices := notices }) ∧
      ((audit.withJobs jobs).execute plan).run.run { workspace with turns := turns } =
        (audit.conclude plan findings).run.run after ∧
      (audit.conclude plan findings).run.run after =
        (match Aggregate.ofFindings findings with
        | .error error => (.error (.metrics error), after)
        | .ok aggregate => (audit.deliver plan aggregate).run.run after) ∧
      ((∀ linter, audit.linter = some linter → linter.Neutral) →
        findings = plan.files.flatMap (foundIn audit.read plan.analyzers workspace.tree) ++
          (audit.lintAnswer plan.lintTargets workspace).toOption.getD [] ∧
        after.tree = (audit.afterLinter plan.lintTargets workspace).tree ∧
        after.clock = (audit.afterLinter plan.lintTargets workspace).clock) := by
  obtain ⟨notices, phases, said, hgather⟩ := (audit.withJobs jobs).run_gather plan
    (announced plan { workspace with turns := turns })
  refine ⟨{ workspace with turns := turns, notices := notices, phases := phases }, _, _,
    ⟨notices, phases, rfl⟩, rfl, ⟨said, rfl⟩, ?_, audit.run_conclude plan _ _, fun hneutral => ?_⟩
  · rw [run_execute, hgather]
    rfl
  · have hsame : ({ workspace with turns := turns, notices := notices, phases := phases } :
        Workspace).tree = workspace.tree := rfl
    obtain ⟨hanswer, hafter⟩ := lint_congr hneutral plan.lintTargets hsame rfl
    exact ⟨by rw [hanswer], hafter⟩

/-- A reader that fails on every file but one, and an external linter that fails. -/
def troubled : Audit where
  config := ⟨⟨1, ["src"]⟩, ⟨[], ["kt"]⟩, ⟨1, true, []⟩, .default, .default⟩
  registry := .empty
  read := fun _ file => if file.relative = "A.kt" then .ok [] else .error (.stated "denied")
  linter := some fun _ _ => return .error (.stated "missing")

/-- Two files, and two analyzers of which the first one fails. -/
def troubledPlan : Plan where
  mode := .full
  files := [⟨⟨1, ["src", "A.kt"]⟩, "A.kt", 0, 0, none⟩, ⟨⟨1, ["src", "B.kt"]⟩, "B.kt", 0, 0, none⟩]
  analyzers := [⟨"failing", "Failing", .codeSmell, fun _ => .ok true,
      fun _ _ _ => .error (.stated "failed")⟩,
    .ofRules "working" "Working" .codeSmell (fun _ => true) fun _ _ =>
      [⟨1, "seen", "Seen", "Seen.", .low, "", "None.", none, none, false, .small, []⟩]]
  lintTargets := [⟨1, ["src"]⟩]

def troubledStart : Workspace := .ofTree (.empty ⟨1, []⟩) ⟨0, 1⟩

/-- Of the failures each takes away its own part: one finding is left, with two jobs of which the
second one ends first. -/
theorem execute_eq_conclude_troubled : ∃ finding after,
    finding.file = "A.kt" ∧ finding.analyzer = "working" ∧ after.tree = troubledStart.tree ∧
      ((troubled.withJobs 2).execute troubledPlan).run.run { troubledStart with turns := [1] } =
        (troubled.conclude troubledPlan [finding]).run.run after := by
  obtain ⟨asked, findings, after, -, -, -, hrun, -, hsteady⟩ :=
    execute_eq_conclude troubled troubledPlan 2 [1] troubledStart
  have hneutral : ∀ linter, troubled.linter = some linter → linter.Neutral := by
    intro linter hlinter
    obtain rfl := Option.some.inj hlinter
    exact fun _ _ _ _ htree hclock => ⟨rfl, htree, hclock⟩
  obtain ⟨rfl, htree, -⟩ := hsteady hneutral
  exact ⟨_, after, rfl, rfl, htree, hrun⟩

end Audit
end KotlinAudit
