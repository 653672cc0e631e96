import KotlinAudit.Proofs.Audit.Persist
import KotlinAudit.Proofs.FileTree.Edits
import KotlinAudit.Proofs.FileTree.Making

/-! The artefacts of a full run: its report, its entry of the history and its baseline. What they are
made of is settled before the first of them is written, and each of them is written whatever has become
of the others. -/
namespace KotlinAudit

open FileTree (Edit maxLinks refusal?)

/-- The files that a full run writes, in their order. -/
inductive Artefact
  | report | history | baseline
deriving DecidableEq, Repr

namespace Artefact

def all : List Artefact := [report, history, baseline]

theorem mem_all (artefact : Artefact) : artefact ∈ all := by cases artefact <;> decide

def name : Artefact → String
  | report => "analysis-report.md"
  | history => "history.jsonl"
  | baseline => "baseline.json"

/-- The time at which an artefact is written. -/
def clock (start : Clock) : Artefact → Clock
  | report => start
  | history => start.afterStamp
  | baseline => start.afterStamp.afterStamp

end Artefact

/-- The baseline in the content of a file, if it is one. -/
def Baseline.ofContent? : Content → Option Baseline
  | .text text => (Baseline.ofText (Text.withLineFeeds text.toList)).toOption
  | .binary _ => none

theorem Baseline.invalid_of_ofText {text : List Char} {fault : BaselineFault}
    (h : Baseline.ofText text = .error fault) : ∃ count, fault = .invalid count := by
  unfold Baseline.ofText at h
  split at h
  · cases h
    exact ⟨1, rfl⟩
  · split at h
    · cases h
    · cases h
      exact ⟨_, rfl⟩

namespace Store

def pathOf (store : Store) (artefact : Artefact) : Path := store.directory.child artefact.name

/-- What is said when an artefact cannot be written. -/
def faultOf (store : Store) (artefact : Artefact) (error : FileError) : PersistError :=
  match artefact with
  | .report => .report (store.pathOf artefact) error
  | .history => .history (store.pathOf artefact) error
  | .baseline => .baseline (store.pathOf artefact) error

/-- The outcome of writing an artefact for which there is a value, as the store tells it. -/
def answer {α : Type} (store : Store) (artefact : Artefact) (value : α) :
    Except FileError Unit → Except PersistError α
  | .error error => .error (store.faultOf artefact error)
  | .ok () => .ok value

/-- The baseline that a full run is compared with. -/
def loaded (store : Store) (tree : FileTree) : Except FileError (Option Baseline) :=
  match store.readBaseline tree with
  | .ok baseline => .ok baseline
  | .error (.place error) => .error error
  | .error _ => .ok none

/-- What the file at the path of the baseline holds, if there is one. -/
def Stores (store : Store) (tree : FileTree) : Option Content → Prop
  | none => tree.hasFile store.baselinePath = .ok false
  | some content => ∃ modified, tree.node store.baselinePath = .ok (.file content modified)

/-- Content that is no baseline counts as none. -/
theorem loaded_of_stores {store : Store} {tree : FileTree} {stored : Option Content}
    (h : store.Stores tree stored) : store.loaded tree = .ok (stored.bind Baseline.ofContent?) := by
  unfold loaded readBaseline
  cases stored with
  | none =>
    rw [show tree.hasFile store.baselinePath = .ok false from h]
    rfl
  | some content =>
    obtain ⟨modified, hnode⟩ := h
    have hfile : tree.hasFile store.baselinePath = .ok true := by
      rw [FileTree.hasFile, FileTree.node?, hnode]
      rfl
    rw [hfile, FileTree.readText, FileTree.content, hnode]
    cases content with
    | binary octets => rfl
    | text text =>
      dsimp only
      rw [String.toList_ofList, Option.bind_some, Baseline.ofContent?]
      cases htext : Baseline.ofText (Text.withLineFeeds text.toList) with
      | ok baseline => rfl
      | error fault =>
        obtain ⟨count, rfl⟩ := Baseline.invalid_of_ofText htext
        rfl

theorem run_loadBaseline (store : Store) (workspace : Workspace) :
    ∃ notices, store.loadBaseline.run workspace =
      (store.loaded workspace.tree, { workspace with notices := notices }) := by
  have hrun : store.loadBaseline.run workspace = StateT.run (m := Id)
      (match store.readBaseline workspace.tree with
        | .ok baseline => pure (.ok baseline)
        | .error (.place error) => pure (.error error)
        | .error fault => do
          Workspace.say (.warn (fault.message store.baselinePath))
          pure (.ok none)) workspace := rfl
  rw [hrun]
  unfold loaded
  cases store.readBaseline workspace.tree with
  | ok baseline => exact ⟨_, rfl⟩
  | error fault => cases fault <;> exact ⟨_, rfl⟩

end Store

/-- What a full run writes down. -/
structure Documents where
  report : String
  entry : HistoryEntry
  baseline : Baseline

namespace Documents

/-- The documents of a result at a time, compared with a baseline. -/
def ofResult (clock : Clock) (result : Result) (baseline : Option Baseline) :
    Except RunError Documents := do
  let report ← (Report.document clock.time result baseline).mapError .report
  let entry ← (Store.entryOf clock.stamp result.metrics result.findings baseline).mapError .change
  return ⟨report, entry, .ofFindings clock.afterStamp.stamp result.metrics result.findings⟩

/-- What an artefact is to hold, by what it has held before. -/
def content (documents : Documents) : Artefact → Option Content → Content
  | .report, _ => .text documents.report
  | .history, old => (old.getD (.text "")).append documents.entry.line
  | .baseline, _ => .text documents.baseline.document

def edit (documents : Documents) (store : Store) (start : Clock) (artefact : Artefact) : Edit :=
  ⟨store.pathOf artefact, (artefact.clock start).time * 1000000, documents.content artefact⟩

end Documents

/-! ### Writing an artefact -/

/-- The tree and the outcome of writing a file into a directory that is made first. -/
def FileTree.deliver (tree : FileTree) (dir : Path) (edit : Edit) :
    FileTree × Except FileError Unit :=
  match tree.makeDirectory dir with
  | (made, .error error) => (made, .error error)
  | (made, .ok ()) =>
    match made.update edit.path edit.modified edit.change with
    | .error error => (made, .error error)
    | .ok after => (after, .ok ())

/-- All artefacts one after the other. -/
def Documents.deliver (documents : Documents) (store : Store) (start : Clock) (tree : FileTree) :
    FileTree × (Artefact → Except FileError Unit) :=
  let report := tree.deliver store.directory (documents.edit store start .report)
  let history := report.1.deliver store.directory (documents.edit store start .history)
  let baseline := history.1.deliver store.directory (documents.edit store start .baseline)
  (baseline.1, fun
    | .report => report.2
    | .history => history.2
    | .baseline => baseline.2)

theorem Documents.deliver_steps {documents : Documents} {store : Store} {start : Clock}
    {tree after : FileTree} {outcome : Artefact → Except FileError Unit}
    (h : documents.deliver store start tree = (after, outcome)) : ∃ first second,
      tree.deliver store.directory (documents.edit store start .report) = (first, outcome .report) ∧
      first.deliver store.directory (documents.edit store start .history) =
        (second, outcome .history) ∧
      second.deliver store.directory (documents.edit store start .baseline) =
        (after, outcome .baseline) := by
  cases h
  exact ⟨_, _, rfl, rfl, rfl⟩

namespace Audit

variable {audit : Audit} {workspace after : Workspace} {result : Result} {dir : Path}
  {documents : Documents} {baseline : Option Baseline}

theorem run_makeDirectory_eq (dir : Path) (workspace : Workspace) :
    (Workspace.makeDirectory dir).run workspace =
      ((workspace.tree.makeDirectory dir).2,
        { workspace with tree := (workspace.tree.makeDirectory dir).1 }) := rfl

/-- Changing a file in a directory that is made first. -/
theorem run_deliver (dir path : Path) (change : Option Content → Content) (workspace : Workspace) :
    StateT.run (m := Id) (do
      match ← Workspace.makeDirectory dir with
      | .error error => return .error error
      | .ok () => Workspace.change fun workspace =>
          workspace.tree.update path workspace.modified change) workspace =
      ((workspace.tree.deliver dir ⟨path, workspace.modified, change⟩).2,
        { workspace with
          tree := (workspace.tree.deliver dir ⟨path, workspace.modified, change⟩).1 }) := by
  rw [StateT.run_bind, run_makeDirectory_eq, FileTree.deliver]
  obtain ⟨made, outcome⟩ := workspace.tree.makeDirectory dir
  cases outcome with
  | error error => rfl
  | ok done =>
    change StateT.run (m := Id) (Workspace.change _) { workspace with tree := made } = _
    have hmodified : ({ workspace with tree := made } : Workspace).modified = workspace.modified := rfl
    rw [Workspace.run_change_eq]
    dsimp only
    rw [hmodified]
    cases made.update path workspace.modified change <;> rfl

theorem run_save (dir : Path) (suffix text : String) (workspace : Workspace) :
    (Report.save dir suffix text).run workspace =
      (match (workspace.tree.deliver dir
          ⟨Report.pathIn dir suffix, workspace.modified, fun _ => .text text⟩).2 with
        | .error error => .error (.report (Report.pathIn dir suffix) error)
        | .ok () => .ok (Report.pathIn dir suffix),
        { workspace with tree := (workspace.tree.deliver dir
          ⟨Report.pathIn dir suffix, workspace.modified, fun _ => .text text⟩).1 }) := by
  have hsave : Report.save dir suffix text = (do
      let outcome ← (do
        match ← Workspace.makeDirectory dir with
        | .error error => return .error error
        | .ok () => Workspace.change fun workspace =>
            workspace.tree.update (Report.pathIn dir suffix) workspace.modified fun _ => .text text :
          Action (Except FileError Unit))
      match outcome with
      | .error error => return .error (.report (Report.pathIn dir suffix) error)
      | .ok () => return .ok (Report.pathIn dir suffix)) := by
    unfold Report.save
    rw [bind_assoc]
    refine bind_congr fun outcome => ?_
    cases outcome with
    | error error => rfl
    | ok done => rfl
  rw [hsave, StateT.run_bind, run_deliver]
  generalize workspace.tree.deliver dir
    ⟨Report.pathIn dir suffix, workspace.modified, fun _ => .text text⟩ = delivery
  obtain ⟨tree, outcome⟩ := delivery
  cases outcome <;> rfl

theorem run_writeText_eq (dir : Path) (name text : String) (workspace : Workspace) :
    (Workspace.writeText (dir.child name) text).run workspace =
      ((workspace.tree.deliver dir ⟨dir.child name, workspace.modified, fun _ => .text text⟩).2,
        { workspace with tree := (workspace.tree.deliver dir
          ⟨dir.child name, workspace.modified, fun _ => .text text⟩).1 }) := by
  unfold Workspace.writeText
  rw [Workspace.parent_child]
  exact run_deliver dir (dir.child name) (fun _ => .text text) workspace

theorem run_appendText_eq (dir : Path) (name text : String) (workspace : Workspace) :
    (Workspace.appendText (dir.child name) text).run workspace =
      ((workspace.tree.deliver dir
          ⟨dir.child name, workspace.modified, fun old => (old.getD (.text "")).append text⟩).2,
        { workspace with tree := (workspace.tree.deliver dir
          ⟨dir.child name, workspace.modified,
            fun old => (old.getD (.text "")).append text⟩).1 }) := by
  unfold Workspace.appendText
  rw [Workspace.parent_child]
  exact run_deliver dir (dir.child name) (fun old => (old.getD (.text "")).append text) workspace

theorem run_sayFault {error : PersistError} (h : error.cause.isRefusal) (workspace : Workspace) :
    (sayFault error).run.run workspace =
      (.ok (), { workspace with notices := workspace.notices ++ [.fail error.message] }) := by
  unfold sayFault
  rw [if_pos h]
  rfl

/-- Where a report stands whose writing has come to an outcome. -/
def placeOfReport (store : Store) : Except FileError Unit → Option Path
  | .ok () => some (store.pathOf .report)
  | .error _ => none

/-- A report that can be composed is written or said to have failed. -/
theorem run_writeReport_full (workspace : Workspace) {text : String} (hmode : result.mode = .full)
    (htext : Report.document workspace.clock.time result baseline = .ok text)
    {tree : FileTree} {outcome : Except FileError Unit}
    (hdeliver : workspace.tree.deliver audit.store.directory
      ⟨audit.store.pathOf .report, workspace.modified, fun _ => .text text⟩ = (tree, outcome))
    (hrefusal : ∀ error, outcome = .error error → error.isRefusal) :
    ∃ notices, (audit.writeReport result baseline).run.run workspace =
        (.ok (placeOfReport audit.store outcome),
          { workspace with tree := tree, notices := notices }) ∧
      ∀ error, outcome = .error error →
        .fail (audit.store.faultOf .report error).message ∈ notices := by
  have hsave := run_save audit.store.directory (reportSuffix result.mode) text workspace
  rw [hmode, show Report.pathIn audit.store.directory (reportSuffix .full) =
    audit.store.pathOf .report from rfl, hdeliver] at hsave
  cases outcome with
  | ok done =>
    refine ⟨workspace.notices ++ [.info ("Report written to " ++ (audit.store.pathOf .report).text)],
      run_bind_eq_ok.2 ⟨_, _, rfl, ?_⟩, nofun⟩
    rw [htext, hmode]
    exact run_bind_eq_ok.2 ⟨_, _, run_lift_eq_ok.2 hsave, rfl⟩
  | error error =>
    have hfault := run_sayFault
      (show (audit.store.faultOf .report error).cause.isRefusal from hrefusal error rfl)
      { workspace with tree := tree }
    refine ⟨workspace.notices ++ [.fail (audit.store.faultOf .report error).message],
      run_bind_eq_ok.2 ⟨_, _, rfl, ?_⟩, ?_⟩
    · rw [htext, hmode]
      refine run_bind_eq_ok.2 ⟨_, _, run_lift_eq_ok.2 hsave, ?_⟩
      exact run_bind_eq_ok.2 ⟨_, _, hfault, rfl⟩
    · rintro error' ⟨⟩
      simp

/-- The entry of a run is appended to the history, if that is not refused. -/
theorem run_record_eq (store : Store) {metrics : Metrics} {findings : List Finding}
    {entry : HistoryEntry}
    (hentry : Store.entryOf workspace.clock.stamp metrics findings baseline = .ok entry)
    {tree : FileTree} {outcome : Except FileError Unit}
    (hdeliver : workspace.tree.deliver store.directory
      ⟨store.pathOf .history, workspace.clock.afterStamp.time * 1000000,
        fun old => (old.getD (.text "")).append entry.line⟩ = (tree, outcome)) :
    ∃ notices, (store.record metrics findings baseline).run workspace =
        ((store.answer .history entry outcome).mapError .persist,
          { workspace with
            tree := tree, clock := workspace.clock.afterStamp, notices := notices }) ∧
      workspace.notices ⊆ notices := by
  have happend := run_appendText_eq store.directory "history.jsonl" entry.line
    { workspace with clock := workspace.clock.afterStamp }
  rw [show (({ workspace with clock := workspace.clock.afterStamp } : Workspace).tree.deliver
      store.directory ⟨store.directory.child "history.jsonl",
        ({ workspace with clock := workspace.clock.afterStamp } : Workspace).modified,
        fun old => (old.getD (.text "")).append entry.line⟩) = (tree, outcome) from hdeliver] at happend
  rw [Store.record_run_of_entryOf hentry, StateT.run_bind, Store.historyPath, happend]
  cases outcome with
  | error error => exact ⟨workspace.notices, rfl, List.Subset.refl _⟩
  | ok done => exact ⟨_, rfl, List.subset_append_left _ _⟩

/-- The baseline of a run replaces the one before, if that is not refused. -/
theorem run_saveBaseline_eq (store : Store) (metrics : Metrics) (findings : List Finding)
    (workspace : Workspace) {tree : FileTree} {outcome : Except FileError Unit}
    (hdeliver : workspace.tree.deliver store.directory
      ⟨store.pathOf .baseline, workspace.clock.afterStamp.time * 1000000,
        fun _ => .text (Baseline.ofFindings workspace.clock.stamp metrics findings).document⟩ =
      (tree, outcome)) :
    ∃ notices, (store.saveBaseline metrics findings).run workspace =
        (store.answer .baseline (.ofFindings workspace.clock.stamp metrics findings) outcome,
          { workspace with
            tree := tree, clock := workspace.clock.afterStamp, notices := notices }) ∧
      workspace.notices ⊆ notices := by
  have hwrite := run_writeText_eq store.directory "baseline.json"
    (Baseline.ofFindings workspace.clock.stamp metrics findings).document
    { workspace with clock := workspace.clock.afterStamp }
  rw [show (({ workspace with clock := workspace.clock.afterStamp } : Workspace).tree.deliver
      store.directory ⟨store.directory.child "baseline.json",
        ({ workspace with clock := workspace.clock.afterStamp } : Workspace).modified,
        fun _ => .text (Baseline.ofFindings workspace.clock.stamp metrics findings).document⟩) =
      (tree, outcome) from hdeliver] at hwrite
  have hrun : (store.saveBaseline metrics findings).run workspace =
      StateT.run (m := Id) (do
        match ← Workspace.writeText (store.directory.child "baseline.json")
            (Baseline.ofFindings workspace.clock.stamp metrics findings).document with
        | .error error => return .error (.baseline store.baselinePath error)
        | .ok () =>
          Workspace.say (.ok ("Baseline saved to " ++ store.baselinePath.text))
          return .ok (.ofFindings workspace.clock.stamp metrics findings))
        { workspace with clock := workspace.clock.afterStamp } := rfl
  rw [hrun, StateT.run_bind, hwrite]
  cases outcome with
  | error error => exact ⟨workspace.notices, rfl, List.Subset.refl _⟩
  | ok done => exact ⟨_, rfl, List.subset_append_left _ _⟩

/-- Says what could not be written. -/
def told {α : Type} : Except PersistError α → Run Unit
  | .error error => sayFault error
  | .ok _ => pure ()

def toldRecord : Except Store.RecordError HistoryEntry → Run Unit
  | .error (.change error) => throw (.change error)
  | .error (.persist error) => sayFault error
  | .ok _ => pure ()

theorem toldRecord_mapError (answer : Except PersistError HistoryEntry) :
    toldRecord (answer.mapError .persist) = told answer := by
  cases answer <;> rfl

theorem writeRecords_eq (audit : Audit) (result : Result) (baseline : Option Baseline) :
    audit.writeRecords result baseline = (do
      toldRecord (← audit.store.record result.metrics result.findings baseline)
      told (← audit.store.saveBaseline result.metrics result.findings)) := by
  unfold writeRecords
  refine bind_congr fun recorded => ?_
  cases recorded with
  | ok entry =>
    rw [toldRecord, pure_bind]
    refine bind_congr fun saved => ?_
    cases saved <;> rfl
  | error error =>
    cases error with
    | change error => rfl
    | persist error =>
      refine bind_congr fun _ => bind_congr fun saved => ?_
      cases saved <;> rfl

/-- What has been said is kept, and what could not be written is added to it. -/
theorem run_told {α : Type} (store : Store) (artefact : Artefact) (value : α)
    {outcome : Except FileError Unit} (h : ∀ error, outcome = .error error → error.isRefusal)
    (workspace : Workspace) :
    ∃ notices, (told (store.answer artefact value outcome)).run.run workspace =
        (.ok (), { workspace with notices := notices }) ∧
      workspace.notices ⊆ notices ∧
      ∀ error, outcome = .error error → .fail (store.faultOf artefact error).message ∈ notices := by
  cases outcome with
  | ok done => exact ⟨workspace.notices, rfl, List.Subset.refl _, nofun⟩
  | error error =>
    have hcause : (store.faultOf artefact error).cause = error := by cases artefact <;> rfl
    have hrefusal : (store.faultOf artefact error).cause.isRefusal := by
      rw [hcause]
      exact h error rfl
    refine ⟨_, run_sayFault hrefusal workspace, List.subset_append_left _ _, ?_⟩
    rintro error' ⟨⟩
    simp

/-- The entry and the baseline are both attempted. -/
theorem run_writeRecords_full (workspace : Workspace) {entry : HistoryEntry}
    (hentry : Store.entryOf workspace.clock.stamp result.metrics result.findings baseline =
      .ok entry) {first second : FileTree} {recorded saved : Except FileError Unit}
    (hrecord : workspace.tree.deliver audit.store.directory
      ⟨audit.store.pathOf .history, workspace.clock.afterStamp.time * 1000000,
        fun old => (old.getD (.text "")).append entry.line⟩ = (first, recorded))
    (hsave : first.deliver audit.store.directory
      ⟨audit.store.pathOf .baseline, workspace.clock.afterStamp.afterStamp.time * 1000000,
        fun _ => .text (Baseline.ofFindings workspace.clock.afterStamp.stamp result.metrics
          result.findings).document⟩ = (second, saved))
    (hrecorded : ∀ error, recorded = .error error → error.isRefusal)
    (hsaved : ∀ error, saved = .error error → error.isRefusal) :
    ∃ notices, (audit.writeRecords result baseline).run.run workspace =
        (.ok (), { workspace with
          tree := second, clock := workspace.clock.afterStamp.afterStamp, notices := notices }) ∧
      workspace.notices ⊆ notices ∧
      (∀ error, recorded = .error error →
        .fail (audit.store.faultOf .history error).message ∈ notices) ∧
      ∀ error, saved = .error error →
        .fail (audit.store.faultOf .baseline error).message ∈ notices := by
  obtain ⟨noted, hnoted, hnotes⟩ := run_record_eq audit.store hentry hrecord
  obtain ⟨warned, hwarned, hwarns, hfirst⟩ := run_told audit.store .history entry hrecorded
    { workspace with tree := first, clock := workspace.clock.afterStamp, notices := noted }
  rw [← toldRecord_mapError] at hwarned
  obtain ⟨kept, hkept, hkeeps⟩ := run_saveBaseline_eq audit.store result.metrics result.findings
    { workspace with tree := first, clock := workspace.clock.afterStamp, notices := warned } hsave
  obtain ⟨notices, hnotices, hlast, hsecond⟩ := run_told audit.store .baseline
    (Baseline.ofFindings workspace.clock.afterStamp.stamp result.metrics result.findings) hsaved
    { workspace with
      tree := second, clock := workspace.clock.afterStamp.afterStamp, notices := kept }
  have hlater : warned ⊆ notices := List.Subset.trans hkeeps hlast
  refine ⟨notices, ?_, ?_, fun error herror => hlater (hfirst error herror), hsecond⟩
  · rw [writeRecords_eq]
    exact run_bind_eq_ok.2 ⟨_, _, run_lift_eq_ok.2 hnoted, run_bind_eq_ok.2 ⟨_, _, hwarned,
      run_bind_eq_ok.2 ⟨_, _, run_lift_eq_ok.2 hkept, hnotices⟩⟩⟩
  · exact List.Subset.trans (List.Subset.trans hnotes hwarns) hlater

end Audit
end KotlinAudit
