import KotlinAudit.Proofs.Audit.Request
import KotlinAudit.Proofs.Baseline.Kept

/-! Runs and the store that they write to. A full run is recorded there, a run of any other kind
leaves its baseline and its history alone. -/
namespace KotlinAudit.Audit

variable {audit : Audit} {workspace after : Workspace} {entries : List HistoryEntry}
  {kept : Option Baseline} {result : Result} {path : Option Path}

/-- Writing a report leaves what the store holds. -/
theorem run_writeReport (h : audit.store.Holds workspace.tree entries kept)
    {baseline : Option Baseline}
    (hrun : (audit.writeReport result baseline).run.run workspace = (.ok path, after)) :
    after.clock = workspace.clock ∧ audit.store.Holds after.tree entries kept ∧
      audit.store.Keeps workspace.tree after.tree := by
  unfold writeReport at hrun
  obtain ⟨_, _, hget, hrest⟩ := run_bind_eq_ok.1 hrun
  cases hget
  cases hdocument : Report.document workspace.clock.time result baseline with
  | error error =>
    rw [hdocument] at hrest
    cases hrest
  | ok text =>
    rw [hdocument] at hrest
    obtain ⟨saved, _, hsave, hsaid⟩ := run_bind_eq_ok.1 hrest
    obtain ⟨place, written, hwrite, hholds, hkeeps⟩ := h.run_save result.mode text
    rw [run_lift_eq_ok, hwrite] at hsave
    cases hsave
    obtain ⟨_, _, hsay, hpath⟩ := run_bind_eq_ok.1 hsaid
    cases run_lift_eq_ok.1 hsay
    cases hpath
    exact ⟨rfl, hholds, hkeeps⟩

/-- A full run is added to the history, compared with the baseline that was loaded, and becomes the
new baseline. -/
theorem run_writeRecords (h : audit.store.Holds workspace.tree entries kept)
    (hmetrics : result.metrics.Regular)
    (hids : ∀ finding ∈ result.findings, Text.Unbroken finding.id.toList)
    {baseline : Option Baseline}
    (hbaseline : ∀ each, baseline = some each → ∀ id ∈ each.findingIds, Text.Unbroken id.toList)
    (hrun : (audit.writeRecords result baseline).run.run workspace = (.ok (), after)) :
    ∃ entry, Store.entryOf workspace.clock.stamp result.metrics result.findings baseline =
        .ok entry ∧
      audit.store.Holds after.tree (entries ++ [entry])
        (some (.ofFindings workspace.clock.afterStamp.stamp result.metrics result.findings)) := by
  unfold writeRecords at hrun
  obtain ⟨recorded, between, hrecord, hrest⟩ := run_bind_eq_ok.1 hrun
  rw [run_lift_eq_ok] at hrecord
  cases hentry : Store.entryOf workspace.clock.stamp result.metrics result.findings baseline with
  | error error =>
    rw [Store.run_record_of_error hentry] at hrecord
    cases hrecord
    cases hrest
  | ok entry =>
    obtain ⟨noted, hnoted, hclock, hholds⟩ := h.run_record hentry
      (Store.regular_of_entryOf hentry hmetrics hids hbaseline)
    rw [hnoted] at hrecord
    cases hrecord
    obtain ⟨saved, _, hsave, hlast⟩ := run_bind_eq_ok.1 hrest
    obtain ⟨final, hfinal, hkept⟩ := hholds.run_saveBaseline hmetrics hids
    rw [run_lift_eq_ok, hfinal] at hsave
    cases hsave
    cases hlast
    rw [hclock] at hkept
    exact ⟨entry, rfl, hkept⟩

/-- What a completed full run leaves in the store. -/
theorem run_persist_full (hrun : (audit.persist result).run.run workspace = (.ok path, after))
    (h : audit.store.Holds workspace.tree entries kept) (hmode : result.mode = .full)
    (hmetrics : result.metrics.Regular)
    (hids : ∀ finding ∈ result.findings, Text.Unbroken finding.id.toList) :
    ∃ entry, Store.entryOf workspace.clock.stamp result.metrics result.findings
        (kept.filter fun each => each.Legible) = .ok entry ∧
      audit.store.Holds after.tree (entries ++ [entry])
        (some (.ofFindings workspace.clock.afterStamp.stamp result.metrics result.findings)) := by
  have hfull : (result.mode == .full) = true := by rw [hmode]; rfl
  unfold persist at hrun
  rw [if_pos hfull] at hrun
  obtain ⟨loaded, _, hload, hrest⟩ := run_bind_eq_ok.1 hrun
  obtain ⟨notices, hloaded⟩ := h.run_loadBaseline
  rw [run_lift_eq_ok, hloaded] at hload
  cases hload
  obtain ⟨baseline, _, hpure, hwriting⟩ := run_bind_eq_ok.1 hrest
  cases hpure
  obtain ⟨place, between, hreport, hrecords⟩ := run_bind_eq_ok.1 hwriting
  have hheld : audit.store.Holds ({ workspace with notices := notices } : Workspace).tree entries
      kept := h
  obtain ⟨hclock, hholds, -⟩ := run_writeReport hheld hreport
  obtain ⟨done, _, hwritten, hlast⟩ := run_bind_eq_ok.1 hrecords
  cases hlast
  have hbaseline : ∀ each, (kept.filter fun each => each.Legible) = some each →
      ∀ id ∈ each.findingIds, Text.Unbroken id.toList :=
    fun each heach => h.unbroken each (Option.eq_some_of_filter_eq_some heach)
  change between.clock = workspace.clock at hclock
  rw [← hclock]
  exact run_writeRecords hholds hmetrics hids hbaseline hwritten

/-- What a completed run of another kind leaves in the store. -/
theorem run_persist_partial (hrun : (audit.persist result).run.run workspace = (.ok path, after))
    (h : audit.store.Holds workspace.tree entries kept) (hmode : result.mode ≠ .full) :
    audit.store.Holds after.tree entries kept ∧ audit.store.Keeps workspace.tree after.tree := by
  have hpartial : ¬(result.mode == .full) = true := by
    cases hresult : result.mode with
    | full => exact absurd hresult hmode
    | incremental => exact Bool.false_ne_true
    | filtered => exact Bool.false_ne_true
  unfold persist at hrun
  rw [if_neg hpartial] at hrun
  exact (run_writeReport h hrun).2

/-! ### Runs that can be written down -/

/-- A sequence completes whose second part completes where the first one has led to. -/
theorem exists_run_bind {α β : Type} {first : Run α} {next : α → Run β} {middle : α}
    {between : Workspace} (h : first.run.run workspace = (.ok middle, between))
    (hnext : ∃ value after, (next middle).run.run between = (.ok value, after)) :
    ∃ value after, (first >>= next).run.run workspace = (.ok value, after) := by
  obtain ⟨value, after, hnext⟩ := hnext
  exact ⟨value, after, run_bind_eq_ok.2 ⟨middle, between, h, hnext⟩⟩

/-- A report that can be written down is written. -/
theorem exists_run_writeReport (h : audit.store.Holds workspace.tree entries kept)
    {baseline : Option Baseline} {text : String}
    (hdocument : Report.document workspace.clock.time result baseline = .ok text) :
    ∃ path after, (audit.writeReport result baseline).run.run workspace = (.ok path, after) := by
  obtain ⟨place, written, hwrite, -, -⟩ := h.run_save result.mode text
  unfold writeReport
  refine exists_run_bind rfl ?_
  rw [hdocument]
  refine exists_run_bind (run_lift_eq_ok.2 hwrite) ?_
  exact exists_run_bind rfl ⟨_, _, rfl⟩

/-- A full run whose changes can be computed is recorded. -/
theorem exists_run_writeRecords (h : audit.store.Holds workspace.tree entries kept)
    (hmetrics : result.metrics.Regular)
    (hids : ∀ finding ∈ result.findings, Text.Unbroken finding.id.toList)
    {baseline : Option Baseline}
    (hbaseline : ∀ each, baseline = some each → ∀ id ∈ each.findingIds, Text.Unbroken id.toList)
    {entry : HistoryEntry} (hentry : Store.entryOf workspace.clock.stamp result.metrics
      result.findings baseline = .ok entry) :
    ∃ done after, (audit.writeRecords result baseline).run.run workspace = (.ok done, after) := by
  obtain ⟨noted, hnoted, -, hholds⟩ := h.run_record hentry
    (Store.regular_of_entryOf hentry hmetrics hids hbaseline)
  obtain ⟨final, hfinal, -⟩ := hholds.run_saveBaseline hmetrics hids
  unfold writeRecords
  refine exists_run_bind (run_lift_eq_ok.2 hnoted) ?_
  exact exists_run_bind (run_lift_eq_ok.2 hfinal) ⟨_, _, rfl⟩

/-- A full run completes if its report can be written down and its changes can be computed. -/
theorem exists_run_persist (h : audit.store.Holds workspace.tree entries kept)
    (hmode : result.mode = .full) (hmetrics : result.metrics.Regular)
    (hids : ∀ finding ∈ result.findings, Text.Unbroken finding.id.toList) {text : String}
    (hdocument : Report.document workspace.clock.time result
      (kept.filter fun each => each.Legible) = .ok text)
    {entry : HistoryEntry} (hentry : Store.entryOf workspace.clock.stamp result.metrics
      result.findings (kept.filter fun each => each.Legible) = .ok entry) :
    ∃ path after, (audit.persist result).run.run workspace = (.ok path, after) := by
  have hfull : (result.mode == .full) = true := by rw [hmode]; rfl
  obtain ⟨notices, hloaded⟩ := h.run_loadBaseline
  have hheld : audit.store.Holds ({ workspace with notices := notices } : Workspace).tree entries
      kept := h
  obtain ⟨path, between, hreport⟩ := exists_run_writeReport hheld hdocument
  obtain ⟨hclock, hholds, -⟩ := run_writeReport hheld hreport
  change between.clock = workspace.clock at hclock
  have hbaseline : ∀ each, (kept.filter fun each => each.Legible) = some each →
      ∀ id ∈ each.findingIds, Text.Unbroken id.toList :=
    fun each heach => h.unbroken each (Option.eq_some_of_filter_eq_some heach)
  rw [← hclock] at hentry
  obtain ⟨done, after, hrecords⟩ := exists_run_writeRecords hholds hmetrics hids hbaseline hentry
  unfold persist
  rw [if_pos hfull]
  refine exists_run_bind (run_lift_eq_ok.2 hloaded) ?_
  refine exists_run_bind rfl ?_
  refine exists_run_bind hreport ?_
  exact exists_run_bind hrecords ⟨_, _, rfl⟩

/-- Without an earlier baseline a report can be written down at every moment of the calendar. -/
theorem exists_document {now : Int} {moment : Moment} (h : Moment.ofMillis now = .ok moment)
    (result : Result) : ∃ text, Report.document now result none = .ok text := by
  unfold Report.document
  rw [h]
  exact ⟨_, rfl⟩

/-- Without an earlier baseline a run of any kind can be written down. -/
theorem exists_run_persist_first (h : audit.store.Holds workspace.tree entries none)
    (hmetrics : result.metrics.Regular)
    (hids : ∀ finding ∈ result.findings, Text.Unbroken finding.id.toList) {moment : Moment}
    (hmoment : Moment.ofMillis workspace.clock.time = .ok moment) :
    ∃ path after, (audit.persist result).run.run workspace = (.ok path, after) := by
  obtain ⟨text, hdocument⟩ := exists_document hmoment result
  by_cases hmode : result.mode = .full
  · exact exists_run_persist h hmode hmetrics hids hdocument rfl
  · unfold persist
    rw [if_neg (by simpa using hmode)]
    exact exists_run_writeReport h hdocument

end KotlinAudit.Audit
