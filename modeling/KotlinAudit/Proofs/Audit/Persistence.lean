import KotlinAudit.Proofs.Audit.Delivery
import KotlinAudit.Proofs.Audit.Progress

/-! Writing full runs down. A run completes if the baseline that it is compared with can be asked for
and compared with; then each of its artefacts is written unless the system refuses it, and if the run
does not complete, nothing has been written. -/
namespace KotlinAudit

/-- A baseline that some metrics can be compared with: its timestamp is a moment of the calendar, and
the changes of all counts are binary numbers. -/
structure Baseline.Comparable (baseline : Baseline) (metrics : Metrics) : Prop where
  moment : ∃ moment, Moment.ofMillis baseline.timestamp = .ok moment
  counts : ∀ priority, ∃ change, Change.ofCounts (baseline.metrics.byPriority.get priority)
    (metrics.byPriority.get priority) = .ok change

namespace Documents

variable {clock : Clock} {result : Result} {baseline : Option Baseline}

theorem exists_report_iff {now : Int} :
    (∃ text, Report.document now result baseline = .ok text) ↔
      (∃ moment, Moment.ofMillis now = .ok moment) ∧
        ∀ each, baseline = some each → each.Comparable result.metrics := by
  constructor
  · rintro ⟨text, htext⟩
    obtain ⟨moment, hmoment, htext⟩ := Outcome.bind_eq_ok.1 htext
    refine ⟨⟨moment, Outcome.mapError_eq_ok.1 hmoment⟩, ?_⟩
    rintro each rfl
    obtain ⟨comparison, hcomparison, hrest⟩ := Outcome.bind_eq_ok.1 htext
    obtain ⟨lines, hlines, -⟩ := Outcome.bind_eq_ok.1 hrest
    obtain ⟨dated, hdated, -⟩ := Outcome.bind_eq_ok.1 (Outcome.mapError_eq_ok.1 hlines)
    have hchanges := Baseline.exists_compare_iff.1 ⟨comparison, Outcome.mapError_eq_ok.1 hcomparison⟩
    exact ⟨⟨dated, hdated⟩, Metrics.exists_changes_iff.1 hchanges⟩
  · rintro ⟨⟨moment, hmoment⟩, hbaseline⟩
    unfold Report.document
    rw [hmoment]
    cases baseline with
    | none => exact ⟨_, rfl⟩
    | some each =>
      obtain ⟨⟨dated, hdated⟩, hcounts⟩ := hbaseline each rfl
      obtain ⟨comparison, hcomparison⟩ :=
        Baseline.exists_compare_iff.2 (Metrics.exists_changes_iff.2 hcounts)
      dsimp only
      rw [hcomparison]
      unfold Report.comparison
      rw [hdated]
      exact ⟨_, rfl⟩

theorem ofResult_eq_ok {documents : Documents} :
    ofResult clock result baseline = .ok documents ↔
      Report.document clock.time result baseline = .ok documents.report ∧
      Store.entryOf clock.stamp result.metrics result.findings baseline = .ok documents.entry ∧
      documents.baseline = .ofFindings clock.afterStamp.stamp result.metrics result.findings := by
  constructor
  · intro h
    obtain ⟨text, htext, hrest⟩ := Outcome.bind_eq_ok.1 h
    obtain ⟨entry, hentry, hlast⟩ := Outcome.bind_eq_ok.1 hrest
    cases hlast
    exact ⟨Outcome.mapError_eq_ok.1 htext, Outcome.mapError_eq_ok.1 hentry, rfl⟩
  · rintro ⟨htext, hentry, hbaseline⟩
    refine Outcome.bind_eq_ok.2 ⟨documents.report, Outcome.mapError_eq_ok.2 htext, ?_⟩
    refine Outcome.bind_eq_ok.2 ⟨documents.entry, Outcome.mapError_eq_ok.2 hentry, ?_⟩
    rw [← hbaseline]
    rfl

/-- Documents can be made of a result if the time is a moment of the calendar and the baseline can be
compared with. -/
theorem exists_ofResult_iff :
    (∃ documents, ofResult clock result baseline = .ok documents) ↔
      (∃ moment, Moment.ofMillis clock.time = .ok moment) ∧
        ∀ each, baseline = some each → each.Comparable result.metrics := by
  rw [← exists_report_iff]
  constructor
  · rintro ⟨documents, hdocuments⟩
    exact ⟨documents.report, (ofResult_eq_ok.1 hdocuments).1⟩
  · rintro ⟨text, htext⟩
    have hentry : ∃ entry, Store.entryOf clock.stamp result.metrics result.findings baseline =
        .ok entry := by
      cases baseline with
      | none => exact ⟨_, rfl⟩
      | some each =>
        have hcounts := ((exists_report_iff.1 ⟨text, htext⟩).2 each rfl).counts
        obtain ⟨comparison, hcomparison⟩ :=
          Baseline.exists_compare_iff.2 (Metrics.exists_changes_iff.2 hcounts)
        refine ⟨_, Outcome.bind_eq_ok.2 ⟨some comparison, ?_, rfl⟩⟩
        rw [Option.mapM_some, hcomparison]
        rfl
    obtain ⟨entry, hentry⟩ := hentry
    exact ⟨⟨text, entry, _⟩, ofResult_eq_ok.2 ⟨htext, hentry, rfl⟩⟩

end Documents

namespace Audit

open Discovery (Scanner)

variable {audit : Audit} {workspace after start : Workspace} {result : Result}
  {documents : Documents} {baseline : Option Baseline}

/-- A full run completes at a moment of the calendar if its findings can be put together and compared
with the baseline that is kept. -/
theorem exists_run_full {files : List SourceFile} {aggregate : Aggregate}
    {entries : List HistoryEntry} (hregistry : audit.registry = .bundled)
    (hlinter : audit.linter = none) (hstore : audit.store.Holds workspace.tree entries baseline)
    (hfiles : audit.filesFor workspace.tree none = .ok files)
    (haggregate : Aggregate.ofFindings
      (audit.yield workspace.tree (audit.analyzersFor .full) files) = .ok aggregate)
    (hmoment : ∃ moment, Moment.ofMillis workspace.clock.time = .ok moment)
    (hbaseline : ∀ each, baseline = some each → each.Comparable aggregate.metrics) :
    ∃ result after, (audit.perform .full).run.run workspace = (.ok result, after) := by
  obtain ⟨metrics, hmetrics, rfl⟩ := Aggregate.ofFindings_eq_ok.1 haggregate
  have hids : ∀ finding ∈ Aggregate.resolved
      (audit.yield workspace.tree (audit.analyzersFor .full) files),
      Text.Unbroken finding.id.toList := fun finding hfinding =>
    unbroken_of_mem_resolved (analyzersFor_spec hregistry .full).1 hfinding
  obtain ⟨documents, hdocuments⟩ : ∃ documents, Documents.ofResult workspace.clock
      ⟨Aggregate.resolved (audit.yield workspace.tree (audit.analyzersFor .full) files), metrics,
        .zero, files.length, .full, none⟩ (baseline.filter fun each => each.Legible) =
          .ok documents :=
    Documents.exists_ofResult_iff.2
      ⟨hmoment, fun each heach => hbaseline each (Option.eq_some_of_filter_eq_some heach)⟩
  obtain ⟨hdocument, hentry, -⟩ := Documents.ofResult_eq_ok.1 hdocuments
  refine exists_run_perform hlinter hfiles fun targets notices => ?_
  refine exists_run_execute hlinter haggregate fun said phases => ?_
  have hheld : audit.store.Holds ({ workspace with notices := said, phases := phases } :
      Workspace).tree entries baseline := hstore
  exact exists_run_persist hheld rfl (Metrics.regular_of_ofFindings hmetrics) hids hdocument hentry

theorem persist_full (audit : Audit) (hmode : result.mode = .full) :
    audit.persist result = (do
      let baseline ← match ← audit.store.loadBaseline with
        | .ok baseline => pure baseline
        | .error error => throw (.place error)
      let path ← audit.writeReport result baseline
      audit.writeRecords result baseline
      return path) := by
  have hfull : (result.mode == .full) = true := by
    rw [hmode]
    rfl
  unfold persist
  exact if_pos hfull

/-- A result whose documents can be made is written down. -/
theorem run_persist_documents (workspace : Workspace) (hmode : result.mode = .full)
    (hloaded : audit.store.loaded workspace.tree = .ok baseline)
    (hdocuments : Documents.ofResult workspace.clock result baseline = .ok documents)
    {tree : FileTree} {outcome : Artefact → Except FileError Unit}
    (hdeliver : documents.deliver audit.store workspace.clock workspace.tree = (tree, outcome))
    (hrefusal : ∀ artefact error, outcome artefact = .error error → error.isRefusal) :
    ∃ notices, (audit.persist result).run.run workspace =
        (.ok (placeOfReport audit.store (outcome .report)), { workspace with
          tree := tree, clock := workspace.clock.afterStamp.afterStamp, notices := notices }) ∧
      ∀ artefact error, outcome artefact = .error error →
        .fail (audit.store.faultOf artefact error).message ∈ notices := by
  obtain ⟨htext, hentry, hbaseline⟩ := Documents.ofResult_eq_ok.1 hdocuments
  obtain ⟨first, second, hfirst, hsecond, hthird⟩ := Documents.deliver_steps hdeliver
  have hlast : second.deliver audit.store.directory
      ⟨audit.store.pathOf .baseline, workspace.clock.afterStamp.afterStamp.time * 1000000,
        fun _ => .text (Baseline.ofFindings workspace.clock.afterStamp.stamp result.metrics
          result.findings).document⟩ = (tree, outcome .baseline) := by
    rw [← hbaseline]
    exact hthird
  obtain ⟨said, hsaid⟩ := audit.store.run_loadBaseline workspace
  rw [hloaded] at hsaid
  obtain ⟨noted, hnoted, hreport⟩ := run_writeReport_full { workspace with notices := said } hmode
    htext hfirst (hrefusal .report)
  obtain ⟨notices, hwritten, hkeeps, hhistory, hsaved⟩ := run_writeRecords_full
    { workspace with tree := first, notices := noted } hentry hsecond hlast (hrefusal .history)
    (hrefusal .baseline)
  refine ⟨notices, ?_, fun artefact error herror => ?_⟩
  · rw [persist_full audit hmode]
    refine run_bind_eq_ok.2 ⟨_, _, run_lift_eq_ok.2 hsaid, run_bind_eq_ok.2 ⟨_, _, rfl, ?_⟩⟩
    exact run_bind_eq_ok.2 ⟨_, _, hnoted, run_bind_eq_ok.2 ⟨_, _, hwritten, rfl⟩⟩
  · cases artefact with
    | report => exact hkeeps (hreport error herror)
    | history => exact hhistory error herror
    | baseline => exact hsaved error herror

/-- A part that fails ends the sequence. -/
theorem run_bind_of_error {α β : Type} {first : Run α} {next : α → Run β} {error : RunError}
    (h : first.run.run workspace = (.error error, after)) :
    (first >>= next).run.run workspace = (.error error, after) := by
  change (StateT.run (first.run >>= ExceptT.bindCont next)) workspace = _
  rw [StateT.run_bind, h]
  rfl

theorem run_bind_of_ok {α β : Type} {first : Run α} {next : α → Run β} {middle : α}
    (h : first.run.run workspace = (.ok middle, after)) :
    (first >>= next).run.run workspace = (next middle).run.run after := by
  change (StateT.run (first.run >>= ExceptT.bindCont next)) workspace = _
  rw [StateT.run_bind, h]
  rfl

/-- Nothing is written if the baseline cannot be asked for or the result cannot be compared with it. -/
theorem run_persist_failed (workspace : Workspace) (hmode : result.mode = .full)
    (h : ∀ baseline, audit.store.loaded workspace.tree = .ok baseline →
      ∀ documents, Documents.ofResult workspace.clock result baseline ≠ .ok documents) :
    ∃ error after, (audit.persist result).run.run workspace = (.error error, after) ∧
      after.tree = workspace.tree := by
  obtain ⟨said, hsaid⟩ := audit.store.run_loadBaseline workspace
  have hload := run_lift_eq_ok.2 hsaid
  rw [persist_full audit hmode, run_bind_of_ok hload]
  cases hloaded : audit.store.loaded workspace.tree with
  | error error => exact ⟨.place error, _, rfl, rfl⟩
  | ok baseline =>
    cases hreport : Report.document workspace.clock.time result baseline with
    | ok text =>
      obtain ⟨documents, hdocuments⟩ := Documents.exists_ofResult_iff.2
        (Documents.exists_report_iff.1 ⟨text, hreport⟩)
      exact absurd hdocuments (h baseline hloaded documents)
    | error failure =>
      have hwrite : (audit.writeReport result baseline).run.run
          { workspace with notices := said } =
          (.error (.report failure), { workspace with notices := said }) := by
        unfold writeReport
        refine (run_bind_of_ok rfl).trans ?_
        rw [hreport]
        rfl
      refine ⟨.report failure, _, (run_bind_of_ok ?_).trans (run_bind_of_error hwrite), rfl⟩
      rfl

/-- The plan of a full run: the external linter looks at the root. -/
def Plan.ofScan (scanner : Scanner) (files : List SourceFile) (analyzers : List Analyzer) :
    Plan :=
  ⟨.full, files, analyzers, [scanner.root]⟩

/-- The part of a full run that comes before its findings are put together. -/
def survey (audit : Audit) : Run (Plan × List Finding) := do
  let scanner ← audit.scanner
  let files ← allFiles scanner
  let plan := Plan.ofScan scanner files (← audit.configuredAnalyzers)
  Workspace.say (.info ("Analyzing " ++ toString plan.files.length ++ " file(s) with " ++
    toString plan.analyzers.length ++ " analyzer(s)"))
  Workspace.enter (.discovered plan.files.length)
  return (plan, ← audit.gather plan)

theorem full_eq_survey (audit : Audit) :
    audit.full = audit.survey >>= fun found => audit.conclude found.1 found.2 := by
  unfold full survey execute
  simp only [bind_assoc, pure_bind]
  rfl

theorem mode_of_survey {plan : Plan} {findings : List Finding}
    (h : audit.survey.run.run start = (.ok (plan, findings), workspace)) : plan.mode = .full := by
  unfold survey at h
  obtain ⟨scanner, _, -, h⟩ := run_bind_eq_ok.1 h
  obtain ⟨files, _, -, h⟩ := run_bind_eq_ok.1 h
  obtain ⟨analyzers, _, -, h⟩ := run_bind_eq_ok.1 h
  obtain ⟨_, _, -, h⟩ := run_bind_eq_ok.1 h
  obtain ⟨_, _, -, h⟩ := run_bind_eq_ok.1 h
  obtain ⟨found, _, -, h⟩ := run_bind_eq_ok.1 h
  cases h
  rfl

/-- The result of a plan whose findings have been put together. -/
def Plan.resultOf (plan : Plan) (aggregate : Aggregate) (path : Option Path) : Result :=
  ⟨aggregate.findings, aggregate.metrics, .zero, plan.files.length, plan.mode, path⟩

/-- A full run that has put its findings together, in a working directory and at a moment of the
calendar. -/
structure Reaches (audit : Audit) (start : Workspace) (plan : Plan) (aggregate : Aggregate)
    (workspace : Workspace) : Prop where
  survey : ∃ findings, audit.survey.run.run start = (.ok (plan, findings), workspace) ∧
    Aggregate.ofFindings findings = .ok aggregate
  here : workspace.tree.here.isAbsolute
  moment : ∃ moment, Moment.ofMillis workspace.clock.time = .ok moment

variable {plan : Plan} {aggregate : Aggregate}

/-- What a full run comes to is what becomes of its result. -/
theorem Reaches.run_perform (h : audit.Reaches start plan aggregate workspace) : ∃ phases,
    (audit.perform .full).run.run start =
      (do
        let path ← audit.persist (plan.resultOf aggregate none)
        return plan.resultOf aggregate path : Run Result).run.run
          { workspace with phases := phases } := by
  obtain ⟨findings, hsurvey, haggregate⟩ := h.survey
  refine ⟨workspace.phases ++ [.aggregated aggregate.findings.length], ?_⟩
  change audit.full.run.run start = _
  rw [full_eq_survey, run_bind_of_ok hsurvey]
  rw [run_conclude, haggregate]
  rfl

/-- What a full run that completes has returned, and what has become of its artefacts once their
directory has been made, as far as that is possible. -/
structure Settled (audit : Audit) (plan : Plan) (aggregate : Aggregate) (workspace : Workspace)
    (made : FileTree) (result : Result) (after : Workspace) : Prop where
  returned : result = plan.resultOf aggregate result.reportPath
  reported : made.Writable (audit.store.pathOf .report) →
    result.reportPath = some (audit.store.pathOf .report)
  unreported : ¬made.Writable (audit.store.pathOf .report) → result.reportPath = none
  extended : workspace.tree.root.Extends made.root
  delivered : ∃ baseline documents, audit.store.loaded workspace.tree = .ok baseline ∧
    Documents.ofResult workspace.clock (plan.resultOf aggregate none) baseline = .ok documents ∧
    audit.store.Delivered workspace.clock documents made after.tree
  told : ∀ artefact, ¬made.Writable (audit.store.pathOf artefact) →
    ∃ error, .fail (audit.store.faultOf artefact error).message ∈ after.notices
  /-- Without the directory nothing stands at the paths of the artefacts. -/
  unmade : ∀ error, (workspace.tree.makeDirectory audit.store.directory).2 = .error error →
    ∀ artefact, ¬made.Writable (audit.store.pathOf artefact) ∧ ∀ node,
      workspace.tree.node (audit.store.pathOf artefact) ≠ .ok node ∧
        after.tree.node (audit.store.pathOf artefact) ≠ .ok node

variable {made : FileTree}

/-- A full run completes if its result can be compared with the baseline. -/
theorem Reaches.completes (h : audit.Reaches start plan aggregate workspace)
    (hmade : (workspace.tree.makeDirectory audit.store.directory).1 = made)
    (hdistinct : audit.store.Distinct made)
    (hsystem : ∀ artefact cause, made.target (audit.store.pathOf artefact) = .error cause →
      cause.OfSystem)
    (hloaded : audit.store.loaded workspace.tree = .ok baseline)
    (hcomparable : ∀ each, baseline = some each → each.Comparable aggregate.metrics) :
    ∃ result after, (audit.perform .full).run.run start = (.ok result, after) ∧
      audit.Settled plan aggregate workspace made result after := by
  obtain ⟨findings, hsurvey, -⟩ := h.survey
  obtain ⟨phases, hperform⟩ := h.run_perform
  have hmode : (plan.resultOf aggregate none).mode = .full := mode_of_survey hsurvey
  obtain ⟨documents, hdocuments⟩ : ∃ documents, Documents.ofResult workspace.clock
      (plan.resultOf aggregate none) baseline = .ok documents :=
    Documents.exists_ofResult_iff.2 ⟨h.moment, hcomparable⟩
  obtain ⟨outcome, hdeliver, houtcome⟩ :=
    Store.deliver_spec h.here hmade hdistinct hsystem documents workspace.clock
  obtain ⟨notices, hpersist, hnotices⟩ := run_persist_documents
    { workspace with phases := phases } hmode hloaded hdocuments hdeliver
    fun artefact => (houtcome artefact).2
  have hwritable : ∀ artefact, made.Writable (audit.store.pathOf artefact) →
      outcome artefact = .ok () := fun artefact => (houtcome artefact).1.2
  have hrefused : ∀ artefact, ¬made.Writable (audit.store.pathOf artefact) →
      ∃ error, outcome artefact = .error error := by
    intro artefact hnot
    cases hartefact : outcome artefact with
    | ok done => exact absurd ((houtcome artefact).1.1 hartefact) hnot
    | error error => exact ⟨error, rfl⟩
  have hrun : (audit.perform .full).run.run start =
      (.ok (plan.resultOf aggregate (placeOfReport audit.store (outcome .report))),
        { workspace with
          tree := made.editAll (documents.edits audit.store workspace.clock)
          clock := workspace.clock.afterStamp.afterStamp
          notices := notices
          phases := phases }) := by
    rw [hperform]
    exact run_bind_eq_ok.2 ⟨_, _, hpersist, rfl⟩
  refine ⟨_, _, hrun, rfl, fun hreport => ?_, fun hreport => ?_, ?_, ?_, fun artefact hnot => ?_,
    fun error herror => ?_⟩
  · change placeOfReport audit.store (outcome .report) = _
    rw [hwritable _ hreport]
    rfl
  · obtain ⟨error, herror⟩ := hrefused _ hreport
    change placeOfReport audit.store (outcome .report) = _
    rw [herror]
    rfl
  · rw [← hmade]
    exact (FileTree.makeAll_spec workspace.tree _ rfl).2.1
  · exact ⟨baseline, documents, hloaded, hdocuments,
      Store.delivered_editAll hdistinct documents workspace.clock⟩
  · obtain ⟨error, herror⟩ := hrefused _ hnot
    exact ⟨error, hnotices artefact error herror⟩
  · have hmake : workspace.tree.makeDirectory audit.store.directory = (made, .error error) :=
      Prod.ext hmade herror
    obtain ⟨hsame, hnone⟩ := Store.editAll_of_failed h.here
      (Store.nul_notMem_of_made h.here hmade hsystem) hmake documents workspace.clock
    rw [hsame]
    exact hnone

/-- A full run that does not complete has written nothing. -/
theorem Reaches.fails (h : audit.Reaches start plan aggregate workspace)
    (hbaseline : ∀ baseline, audit.store.loaded workspace.tree = .ok baseline →
      ¬∀ each, baseline = some each → each.Comparable aggregate.metrics) :
    ∃ error after, (audit.perform .full).run.run start = (.error error, after) ∧
      after.tree = workspace.tree := by
  obtain ⟨findings, hsurvey, -⟩ := h.survey
  obtain ⟨phases, hperform⟩ := h.run_perform
  have hmode : (plan.resultOf aggregate none).mode = .full := mode_of_survey hsurvey
  obtain ⟨error, after, hpersist, htree⟩ := run_persist_failed { workspace with phases := phases }
    hmode fun baseline hloaded documents hdocuments =>
      hbaseline baseline hloaded (Documents.exists_ofResult_iff.1 ⟨documents, hdocuments⟩).2
  refine ⟨error, after, ?_, htree⟩
  rw [hperform]
  exact run_bind_of_error hpersist

/-- A full run that finds files and can put its findings together reaches the writing of its artefacts,
and has changed nothing in the file tree until then. -/
theorem exists_reaches (hlinter : audit.linter = none) {files : List SourceFile}
    (hfiles : audit.filesFor start.tree none = .ok files)
    (haggregate : Aggregate.ofFindings
      (audit.yield start.tree (audit.analyzersFor .full) files) = .ok aggregate)
    (hhere : start.tree.here.isAbsolute)
    (hmoment : ∃ moment, Moment.ofMillis start.clock.time = .ok moment) :
    ∃ plan workspace, audit.Reaches start plan aggregate workspace ∧ plan.files = files ∧
      workspace.tree = start.tree ∧ workspace.clock = start.clock := by
  obtain ⟨scanner, found, hscanner, hfound, hkept⟩ := filesFor_eq_ok.1 hfiles
  have hscan := run_scanner_eq_ok.2 ⟨hscanner, rfl⟩
  obtain ⟨said, hall⟩ := exists_run_allFiles hfound hkept
  obtain ⟨notices, hconfigured⟩ := audit.run_configuredAnalyzers { start with notices := said }
  obtain ⟨noted, phases, hgather⟩ := run_gather_of_none hlinter
    (.ofScan scanner files audit.configured)
    (announced (.ofScan scanner files audit.configured) { start with notices := notices })
  have hsurvey : audit.survey.run.run start =
      (.ok (.ofScan scanner files audit.configured,
        audit.yield start.tree audit.configured files),
        { start with notices := noted, phases := phases }) := by
    refine run_bind_eq_ok.2 ⟨_, _, hscan, run_bind_eq_ok.2 ⟨_, _, hall, ?_⟩⟩
    refine run_bind_eq_ok.2 ⟨_, _, run_lift_eq_ok.2 hconfigured, ?_⟩
    refine run_bind_eq_ok.2 ⟨_, _, rfl, run_bind_eq_ok.2 ⟨_, _, rfl, ?_⟩⟩
    exact run_bind_eq_ok.2 ⟨_, _, run_lift_eq_ok.2 hgather, rfl⟩
  exact ⟨_, _, ⟨⟨_, hsurvey, haggregate⟩, hhere, hmoment⟩, rfl, rfl, rfl⟩

/-! ### A project without sources -/

/-- A project without sources, with something in the directory of its artefacts. -/
def emptyTree (entries : List (String × Node)) : FileTree where
  root := .directory [("out", .directory entries), ("src", .directory [])]
  here := ⟨1, []⟩

variable {entries : List (String × Node)}

theorem empty_node {names : List String} {node : Node} (hpath : FileTree.refusal? ⟨1, names⟩ = none)
    (hnames : FileTree.PlainNames names) (hnode : ∀ target, node ≠ .link target)
    (h : (emptyTree entries).root.at? names = some node) :
    (emptyTree entries).node ⟨1, names⟩ = .ok node :=
  FileTree.node_of_at? hpath hnames hnode h

theorem empty_root : (emptyTree entries).node ⟨1, ["src"]⟩ = .ok (.directory []) :=
  empty_node (by decide) (by decide) (fun _ h => by cases h) rfl

theorem empty_out : (emptyTree entries).node sample.store.directory = .ok (.directory entries) :=
  empty_node (by decide) (by decide) (fun _ h => by cases h) rfl

theorem empty_files : sample.filesFor (emptyTree entries) none = .ok [] := by
  have hroot : (emptyTree entries).resolve ⟨1, ["src"]⟩ = .ok ⟨1, ["src"]⟩ :=
    FileTree.resolve_of_at? (by decide) (by decide) (fun _ h => by cases h) rfl
  have hscanner : sample.scannerIn (emptyTree entries) = .ok sampleScanner := by
    unfold scannerIn Scanner.ofRoot
    rw [show sample.config.root = ⟨1, ["src"]⟩ from rfl, hroot]
    rfl
  have hwalk : sampleScanner.walk (emptyTree entries) ⟨1, ["src"]⟩ (.directory []) = .ok [] := by
    rw [Scanner.walk, Scanner.walkEntries, Scanner.together, List.mergeSort_nil]
    rfl
  have hsighted : sighted sampleScanner (emptyTree entries) none = .ok [] := by
    have hnode : (emptyTree entries).node? ⟨1, ["src"]⟩ = .ok (some (.directory [])) := by
      rw [FileTree.node?, empty_root]
    unfold sighted Scanner.scan
    rw [show sampleScanner.root = ⟨1, ["src"]⟩ from rfl, Scanner.scanAt_of_node? hnode, hwalk]
    rfl
  exact filesFor_eq_ok.2 ⟨_, _, hscanner, hsighted, rfl⟩

theorem empty_reaches (entries : List (String × Node)) : ∃ plan aggregate workspace,
    sample.Reaches (.ofTree (emptyTree entries) ⟨0, 1⟩) plan aggregate workspace ∧
      workspace.tree = emptyTree entries := by
  have hmoment : Moment.ofMillis 0 = .ok ⟨1970, 1, 1, 0, 0, 0⟩ := by decide +kernel
  obtain ⟨aggregate, haggregate⟩ : ∃ aggregate, Aggregate.ofFindings [] = .ok aggregate := ⟨_, rfl⟩
  have hfiles : sample.filesFor (Workspace.ofTree (emptyTree entries) ⟨0, 1⟩).tree none = .ok [] :=
    empty_files
  obtain ⟨plan, workspace, hreaches, -, htree, -⟩ :=
    exists_reaches rfl hfiles haggregate rfl ⟨_, hmoment⟩
  exact ⟨plan, aggregate, workspace, hreaches, htree⟩

theorem empty_admits (entries : List (String × Node)) (artefact : Artefact) :
    (emptyTree entries).Admits sample.store.directory artefact.name := by
  have hpath : FileTree.refusal? (sample.store.directory.child artefact.name) = none := by
    cases artefact <;> decide
  exact ⟨hpath, by cases artefact <;> decide, by cases artefact <;> decide⟩

/-- Nothing in the directory of the artefacts is a link that an artefact would be written to. -/
def Unlinked (entries : List (String × Node)) : Prop :=
  ∀ (artefact : Artefact) link, entries.lookup artefact.name ≠ some (.link link)

theorem unlinked_of_forall (h : ∀ entry ∈ entries, ∀ link, entry.2 ≠ .link link) :
    Unlinked entries :=
  fun _ link hlookup => by
    obtain ⟨before, after, rfl, -⟩ := List.lookup_eq_some_iff.1 hlookup
    exact h _ (List.mem_append_right _ List.mem_cons_self) link rfl

theorem empty_target (h : Unlinked entries) : ∃ place, ∀ artefact,
    (emptyTree entries).target (sample.store.pathOf artefact) =
      if (entries.lookup artefact.name).any Node.isDirectory then .error .isDirectory
      else .ok (place ++ [artefact.name], FileTree.held entries artefact.name) := by
  obtain ⟨place, -, htarget⟩ := Store.target_pathOf rfl empty_out (empty_admits entries) h
  exact ⟨place, htarget⟩

theorem empty_ofSystem (h : Unlinked entries) (artefact : Artefact) (cause : FileCause)
    (hcause : (emptyTree entries).target (sample.store.pathOf artefact) = .error cause) :
    cause.OfSystem := by
  obtain ⟨place, htarget⟩ := empty_target h
  rw [htarget] at hcause
  split at hcause
  · cases hcause
    decide
  · cases hcause

theorem empty_distinct (h : Unlinked entries) : sample.store.Distinct (emptyTree entries) :=
  Store.distinct_of_directory rfl empty_out h

theorem empty_writable (h : Unlinked entries) (artefact : Artefact) :
    (emptyTree entries).Writable (sample.store.pathOf artefact) ↔
      (entries.lookup artefact.name).any Node.isDirectory = false := by
  obtain ⟨place, htarget⟩ := empty_target h
  unfold FileTree.Writable
  rw [htarget]
  cases (entries.lookup artefact.name).any Node.isDirectory with
  | true => simp
  | false => simp

theorem empty_stores (h : Unlinked entries) :
    sample.store.Stores (emptyTree entries) (FileTree.held entries "baseline.json") := by
  have hnode := FileTree.node_child empty_out (empty_admits entries .baseline) (h .baseline)
  rw [show Artefact.baseline.name = "baseline.json" from rfl] at hnode
  change (emptyTree entries).node sample.store.baselinePath = _ at hnode
  unfold FileTree.held
  cases hlookup : entries.lookup "baseline.json" with
  | none =>
    rw [hlookup] at hnode
    rw [Store.Stores, FileTree.hasFile, FileTree.node?, hnode]
    rfl
  | some node =>
    rw [hlookup] at hnode
    cases node with
    | file content modified => exact ⟨modified, hnode⟩
    | directory inner =>
      dsimp only
      rw [Store.Stores, FileTree.hasFile, FileTree.node?, hnode]
      rfl
    | link link =>
      dsimp only
      rw [Store.Stores, FileTree.hasFile, FileTree.node?, hnode]
      rfl

theorem empty_made : ((emptyTree entries).makeDirectory sample.store.directory).1 = emptyTree entries :=
  congrArg Prod.fst (FileTree.makeDirectory_of_directory rfl empty_out)

/-! ### Full runs -/


/-- A full run completes exactly if its baseline can be asked for and its result can be compared with
it. Then each of its artefacts that can be written holds what it would hold in any case, each other
one is as it was, and the result tells whether there is a report; if it does not complete, nothing has
been written. -/
theorem full_settled (h : audit.Reaches start plan aggregate workspace)
    (hmade : (workspace.tree.makeDirectory audit.store.directory).1 = made)
    (hdistinct : audit.store.Distinct made)
    (hsystem : ∀ artefact cause, made.target (audit.store.pathOf artefact) = .error cause →
      cause.OfSystem) :
    ((∃ result after, (audit.perform .full).run.run start = (.ok result, after)) ↔
      ∃ baseline, audit.store.loaded workspace.tree = .ok baseline ∧
        ∀ each, baseline = some each → each.Comparable aggregate.metrics) ∧
    (∀ error after, (audit.perform .full).run.run start = (.error error, after) →
      after.tree = workspace.tree) ∧
    ∀ result after, (audit.perform .full).run.run start = (.ok result, after) →
      audit.Settled plan aggregate workspace made result after := by
  by_cases hbaseline : ∃ baseline, audit.store.loaded workspace.tree = .ok baseline ∧
    ∀ each, baseline = some each → each.Comparable aggregate.metrics
  · obtain ⟨baseline, hloaded, hcomparable⟩ := hbaseline
    obtain ⟨result, after, hrun, hsettled⟩ :=
      h.completes hmade hdistinct hsystem hloaded hcomparable
    refine ⟨⟨fun _ => ⟨baseline, hloaded, hcomparable⟩, fun _ => ⟨result, after, hrun⟩⟩, ?_, ?_⟩
    · intro error other hother
      cases hrun.symm.trans hother
    · intro result' after' hrun'
      cases hrun.symm.trans hrun'
      exact hsettled
  · obtain ⟨error, after, hrun, htree⟩ := h.fails fun baseline hloaded hcomparable =>
      hbaseline ⟨baseline, hloaded, hcomparable⟩
    refine ⟨⟨?_, fun hloaded => absurd hloaded hbaseline⟩, ?_, ?_⟩
    · rintro ⟨result, after', hrun'⟩
      cases hrun.symm.trans hrun'
    · intro error' after' hrun'
      cases hrun.symm.trans hrun'
      exact htree
    · intro result' after' hrun'
      cases hrun.symm.trans hrun'

/-- A directory in the place of the history keeps the entry from being written, but not the report and
the baseline. -/
theorem full_settled_hindered : ∃ plan aggregate workspace result after,
    sample.Reaches (.ofTree (emptyTree [("history.jsonl", .directory [])]) ⟨0, 1⟩) plan aggregate
      workspace ∧
    (sample.perform .full).run.run (.ofTree (emptyTree [("history.jsonl", .directory [])]) ⟨0, 1⟩) =
      (.ok result, after) ∧
    sample.Settled plan aggregate workspace (emptyTree [("history.jsonl", .directory [])]) result
      after ∧
    ∀ artefact, (emptyTree [("history.jsonl", .directory [])]).Writable
      (sample.store.pathOf artefact) ↔ artefact ≠ .history := by
  have hlink : Unlinked [("history.jsonl", .directory [])] :=
    unlinked_of_forall fun entry hentry link => by
      rw [List.mem_singleton.1 hentry]
      exact nofun
  obtain ⟨plan, aggregate, workspace, hreaches, htree⟩ :=
    empty_reaches [("history.jsonl", .directory [])]
  have hmade : (workspace.tree.makeDirectory sample.store.directory).1 =
      emptyTree [("history.jsonl", .directory [])] := by
    rw [htree]
    exact empty_made
  have hloaded : sample.store.loaded workspace.tree = .ok none := by
    rw [htree]
    exact Store.loaded_of_stores (empty_stores hlink)
  obtain ⟨hcompletes, -, hsettled⟩ :=
    full_settled hreaches hmade (empty_distinct hlink) (empty_ofSystem hlink)
  obtain ⟨result, after, hrun⟩ := hcompletes.2 ⟨none, hloaded, fun each heach => by cases heach⟩
  refine ⟨plan, aggregate, workspace, result, after, hreaches, hrun, hsettled _ _ hrun,
    fun artefact => (empty_writable hlink artefact).trans ?_⟩
  cases artefact <;> decide

/-- Whatever the file of the baseline holds before, a full run whose artefacts can be written completes
exactly if that is no baseline or one that the run can be compared with. Then its report is written,
its entry is appended to the history, and its own baseline, which can be read back, replaces the old
one; else nothing is written. -/
theorem full_over_stored (h : audit.Reaches start plan aggregate workspace)
    (hmade : (workspace.tree.makeDirectory audit.store.directory).1 = made)
    (hdistinct : audit.store.Distinct made)
    (hwritable : ∀ artefact, made.Writable (audit.store.pathOf artefact)) {stored : Option Content}
    (hstored : audit.store.Stores workspace.tree stored) :
    ((∃ result after, (audit.perform .full).run.run start = (.ok result, after)) ↔
      ∀ each, stored.bind Baseline.ofContent? = some each → each.Comparable aggregate.metrics) ∧
    (∀ error after, (audit.perform .full).run.run start = (.error error, after) →
      after.tree = workspace.tree) ∧
    ∀ result after, (audit.perform .full).run.run start = (.ok result, after) →
      result = plan.resultOf aggregate (some (audit.store.pathOf .report)) ∧
      ∃ documents : Documents,
        Report.document workspace.clock.time (plan.resultOf aggregate none)
          (stored.bind Baseline.ofContent?) = .ok documents.report ∧
        Store.entryOf workspace.clock.stamp aggregate.metrics aggregate.findings
          (stored.bind Baseline.ofContent?) = .ok documents.entry ∧
        documents.baseline = .ofFindings workspace.clock.afterStamp.stamp aggregate.metrics
          aggregate.findings ∧
        (documents.baseline.Legible →
          Baseline.ofContent? (.text documents.baseline.document) = some documents.baseline) ∧
        ∀ artefact names old, made.target (audit.store.pathOf artefact) = .ok (names, old) →
          after.tree.root.at? names = some (.file (documents.content artefact old)
            ((artefact.clock workspace.clock).time * 1000000)) := by
  have hloaded := Store.loaded_of_stores hstored
  have hsystem : ∀ artefact cause, made.target (audit.store.pathOf artefact) = .error cause →
      cause.OfSystem :=
    fun artefact cause hcause => absurd (hwritable artefact) (FileTree.not_writable_iff.2 ⟨cause, hcause⟩)
  by_cases hcomparable : ∀ each, stored.bind Baseline.ofContent? = some each →
    each.Comparable aggregate.metrics
  · obtain ⟨result, after, hrun, hsettled⟩ :=
      h.completes hmade hdistinct hsystem hloaded hcomparable
    refine ⟨⟨fun _ => hcomparable, fun _ => ⟨result, after, hrun⟩⟩, fun error other hother => ?_,
      fun result' after' hrun' => ?_⟩
    · cases hrun.symm.trans hother
    · cases hrun.symm.trans hrun'
      obtain ⟨baseline, documents, hbaseline, hdocuments, hdelivered⟩ := hsettled.delivered
      obtain rfl := Except.ok.inj (hloaded.symm.trans hbaseline)
      obtain ⟨hreport, hentry, hnew⟩ := Documents.ofResult_eq_ok.1 hdocuments
      refine ⟨?_, documents, hreport, hentry, hnew, fun hlegible => ?_, hdelivered.written⟩
      · rw [← hsettled.reported (hwritable .report)]
        exact hsettled.returned
      · obtain ⟨findings, -, haggregate⟩ := h.survey
        obtain ⟨metrics, hmetrics, rfl⟩ := Aggregate.ofFindings_eq_ok.1 haggregate
        have hregular : documents.baseline.Regular := by
          rw [hnew]
          exact Baseline.regular_ofFindings _ (Metrics.regular_of_ofFindings hmetrics) _
        rw [Baseline.ofContent?, Baseline.withLineFeeds_document hregular,
          Baseline.ofText_document hregular, if_pos hlegible]
        rfl
  · obtain ⟨error, after, hrun, htree⟩ := h.fails fun baseline hother hall => by
      obtain rfl := Except.ok.inj (hloaded.symm.trans hother)
      exact hcomparable hall
    refine ⟨⟨?_, fun hall => absurd hall hcomparable⟩, fun error' after' hrun' => ?_,
      fun result' after' hrun' => ?_⟩
    · rintro ⟨result, after', hrun'⟩
      cases hrun.symm.trans hrun'
    · cases hrun.symm.trans hrun'
      exact htree
    · cases hrun.symm.trans hrun'

/-- Octets that are no text in the place of the baseline do not keep a run from completing. -/
theorem full_over_stored_octets : ∃ plan aggregate workspace result after,
    sample.Reaches (.ofTree (emptyTree [("baseline.json", .file (.binary ⟨#[255]⟩) 0)]) ⟨0, 1⟩) plan
      aggregate workspace ∧
    sample.store.Stores workspace.tree (some (.binary ⟨#[255]⟩)) ∧
    (∀ artefact, (emptyTree [("baseline.json", .file (.binary ⟨#[255]⟩) 0)]).Writable
      (sample.store.pathOf artefact)) ∧
    (sample.perform .full).run.run
      (.ofTree (emptyTree [("baseline.json", .file (.binary ⟨#[255]⟩) 0)]) ⟨0, 1⟩) =
        (.ok result, after) ∧
    result = plan.resultOf aggregate (some (sample.store.pathOf .report)) := by
  have hlink : Unlinked [("baseline.json", .file (.binary ⟨#[255]⟩) 0)] :=
    unlinked_of_forall fun entry hentry link => by
      rw [List.mem_singleton.1 hentry]
      exact nofun
  have hwritable : ∀ artefact, (emptyTree [("baseline.json", .file (.binary ⟨#[255]⟩) 0)]).Writable
      (sample.store.pathOf artefact) := by
    intro artefact
    rw [empty_writable hlink]
    cases artefact <;> decide
  obtain ⟨plan, aggregate, workspace, hreaches, htree⟩ :=
    empty_reaches [("baseline.json", .file (.binary ⟨#[255]⟩) 0)]
  have hmade : (workspace.tree.makeDirectory sample.store.directory).1 =
      emptyTree [("baseline.json", .file (.binary ⟨#[255]⟩) 0)] := by
    rw [htree]
    exact empty_made
  have hstored : sample.store.Stores workspace.tree (some (.binary ⟨#[255]⟩)) := by
    rw [htree]
    exact empty_stores hlink
  obtain ⟨hcompletes, -, hresult⟩ :=
    full_over_stored hreaches hmade (empty_distinct hlink) hwritable hstored
  obtain ⟨result, after, hrun⟩ := hcompletes.2 fun each heach => by cases heach
  exact ⟨plan, aggregate, workspace, result, after, hreaches, hstored, hwritable, hrun,
    (hresult result after hrun).1⟩

end Audit
end KotlinAudit
