import KotlinAudit.Proofs.Audit.Artefacts

/-! What runs do to the tree. Whatever becomes of a run, also when it fails on the way, the tree is changed
by nothing but the delivery of files into the directory of its store. -/
namespace KotlinAudit

/-- A tree after some files of a store have been delivered one after the other, whatever has become of
each delivery. -/
inductive Store.Deliveries (store : Store) (tree : FileTree) : FileTree → Prop
  | nothing : Deliveries store tree tree
  | file {between : FileTree} (before : Deliveries store tree between) {name : String}
    (known : name ∈ Store.fileNames) {edit : FileTree.Edit}
    (path : edit.path = store.directory.child name) :
    Deliveries store tree (between.deliver store.directory edit).1

theorem Store.Deliveries.trans {store : Store} {tree between after : FileTree}
    (h : store.Deliveries tree between) (h' : store.Deliveries between after) :
    store.Deliveries tree after := by
  induction h' with
  | nothing => exact h
  | file _ hname hpath ih => exact .file ih hname hpath

/-- An action that changes the tree by nothing but deliveries into a store. -/
def Action.Confined {α : Type} (store : Store) (action : Action α) : Prop :=
  ∀ workspace, store.Deliveries workspace.tree (action.run workspace).2.tree

namespace Action

variable {α β : Type} {store : Store}

/-- An action that leaves the tree as it is. -/
theorem confined_of_tree {action : Action α}
    (h : ∀ workspace, (action.run workspace).2.tree = workspace.tree) : Confined store action := by
  intro workspace
  rw [h workspace]
  exact .nothing

theorem Confined.bind {first : Action α} {next : α → Action β} (h : Confined store first)
    (h' : ∀ value, Confined store (next value)) : Confined store (first >>= next) := by
  intro workspace
  rw [StateT.run_bind]
  exact (h workspace).trans (h' _ _)

end Action

namespace Run

open KotlinAudit.Action (Confined)

variable {α β : Type} {store : Store}

theorem confined_bind {first : Run α} {next : α → Run β} (h : Confined store first.run)
    (h' : ∀ value, Confined store (next value).run) : Confined store (first >>= next).run := by
  change Confined store (first.run >>= ExceptT.bindCont next)
  refine h.bind fun outcome => ?_
  cases outcome with
  | error error => exact fun _ => .nothing
  | ok value => exact h' value

theorem confined_lift {action : Action α} (h : Confined store action) :
    Confined store (liftM action : Run α).run := by
  change Confined store (action >>= fun value => pure (Except.ok value))
  exact h.bind fun _ _ => .nothing

theorem confined_pure (value : α) : Confined store (pure value : Run α).run := fun _ => .nothing

theorem confined_throw (error : RunError) : Confined store (throw error : Run α).run :=
  fun _ => .nothing

theorem confined_get : Confined store (getThe Workspace : Run Workspace).run := fun _ => .nothing

theorem confined_say (notice : Notice) :
    Confined store (liftM (Workspace.say notice) : Run Unit).run := fun _ => .nothing

/-- Something that may be said first changes nothing. -/
theorem confined_after_notice {condition : Bool} {notice : Notice} {next : Unit → Run α}
    (h : ∀ done, Confined store (next done).run) :
    Confined store (if condition then do let done ← liftM (Workspace.say notice); next done
      else next () : Run α).run := by
  split_ifs
  · exact confined_bind (confined_say notice) h
  · exact h ()

end Run

namespace Audit

open KotlinAudit.Action (Confined)

variable {audit : Audit}

/-! ### Writing -/

theorem confined_sayFault (store : Store) (error : PersistError) :
    Confined store (sayFault error).run := by
  unfold sayFault
  split
  · exact Run.confined_say _
  · exact Run.confined_throw _

theorem confined_save (store : Store) (mode : Mode) (text : String) :
    Confined store (Report.save store.directory (reportSuffix mode) text) := by
  intro workspace
  obtain ⟨name, hname, -, -, hpath⟩ := Store.pathIn_reportSuffix store.directory mode
  rw [run_save]
  exact .file .nothing hname hpath

theorem confined_writeText (store : Store) {name : String} (hname : name ∈ Store.fileNames)
    (text : String) : Confined store (Workspace.writeText (store.directory.child name) text) := by
  intro workspace
  rw [run_writeText_eq]
  exact .file .nothing hname rfl

theorem confined_appendText (store : Store) {name : String} (hname : name ∈ Store.fileNames)
    (text : String) : Confined store (Workspace.appendText (store.directory.child name) text) := by
  intro workspace
  rw [run_appendText_eq]
  exact .file .nothing hname rfl

theorem confined_loadBaseline (store : Store) : Confined store store.loadBaseline := by
  refine Action.confined_of_tree fun workspace => ?_
  obtain ⟨notices, hload⟩ := store.run_loadBaseline workspace
  rw [hload]

theorem confined_saveBaseline (store : Store) (metrics : Metrics) (findings : List Finding) :
    Confined store (store.saveBaseline metrics findings) := by
  unfold Store.saveBaseline
  refine .bind (fun _ => .nothing) fun stamp => ?_
  refine .bind (confined_writeText store (by decide) _) fun outcome => ?_
  cases outcome with
  | error error => exact fun _ => .nothing
  | ok done => exact fun _ => .nothing

theorem confined_record (store : Store) (metrics : Metrics) (findings : List Finding)
    (baseline : Option Baseline) : Confined store (store.record metrics findings baseline) := by
  unfold Store.record
  refine .bind (fun _ => .nothing) fun stamp => ?_
  cases Store.entryOf stamp metrics findings baseline with
  | error error => exact fun _ => .nothing
  | ok entry =>
    refine .bind (confined_appendText store (by decide) _) fun outcome => ?_
    cases outcome with
    | error error => exact fun _ => .nothing
    | ok done => exact fun _ => .nothing

theorem confined_writeReport (result : Result) (baseline : Option Baseline) :
    Confined audit.store (audit.writeReport result baseline).run := by
  unfold writeReport
  refine Run.confined_bind Run.confined_get fun workspace => ?_
  cases Report.document workspace.clock.time result baseline with
  | error error => exact Run.confined_throw _
  | ok text =>
    refine Run.confined_bind (Run.confined_lift (confined_save _ _ _)) fun outcome => ?_
    cases outcome with
    | error error =>
      exact Run.confined_bind (confined_sayFault _ _) fun _ => Run.confined_pure _
    | ok path => exact Run.confined_bind (Run.confined_say _) fun _ => Run.confined_pure _

theorem confined_writeRecords (result : Result) (baseline : Option Baseline) :
    Confined audit.store (audit.writeRecords result baseline).run := by
  rw [writeRecords_eq]
  refine Run.confined_bind (Run.confined_lift (confined_record _ _ _ _)) fun recorded => ?_
  refine Run.confined_bind ?_ fun _ => ?_
  · rcases recorded with (error | error) | entry
    · exact Run.confined_throw _
    · exact confined_sayFault _ _
    · exact Run.confined_pure _
  refine Run.confined_bind (Run.confined_lift (confined_saveBaseline _ _ _)) fun saved => ?_
  cases saved with
  | error error => exact confined_sayFault _ _
  | ok baseline => exact Run.confined_pure _

theorem confined_persist (result : Result) : Confined audit.store (audit.persist result).run := by
  unfold persist
  split
  · refine Run.confined_bind (Run.confined_lift (confined_loadBaseline _)) fun loaded => ?_
    have hwriting : ∀ baseline, Confined audit.store (do
        let path ← audit.writeReport result baseline
        audit.writeRecords result baseline
        return path : Run (Option Path)).run := fun baseline =>
      Run.confined_bind (confined_writeReport _ _) fun path =>
        Run.confined_bind (confined_writeRecords _ _) fun _ => Run.confined_pure path
    cases loaded with
    | error error => exact Run.confined_bind (Run.confined_throw _) hwriting
    | ok baseline => exact Run.confined_bind (Run.confined_pure _) hwriting
  · exact confined_writeReport _ _

/-! ### Whole runs -/

/-- An external linter that writes nothing, or at most into a store. -/
def Tidy (audit : Audit) : Prop :=
  ∀ linter, audit.linter = some linter → ∀ targets config, Confined audit.store (linter targets config)

theorem tidy_of_external {setup : Linter.Setup} {runner : Linter.Runner}
    (h : audit.linter = some (setup.external runner)) : audit.Tidy := by
  intro linter hlinter targets config
  rw [h] at hlinter
  cases hlinter
  refine Action.confined_of_tree fun workspace => ?_
  obtain ⟨notices, hrun⟩ := setup.run_external runner targets config workspace
  rw [hrun]

theorem confined_lint (h : audit.Tidy) (targets : List Path) :
    Confined audit.store (audit.lint targets) := by
  intro workspace
  obtain ⟨said, hlint⟩ := audit.run_lint targets workspace
  rw [hlint]
  change audit.store.Deliveries workspace.tree (audit.afterLinter targets workspace).tree
  unfold afterLinter
  cases hlinter : audit.linter with
  | none => exact .nothing
  | some linter =>
    cases targets with
    | nil => exact .nothing
    | cons target rest => exact h linter hlinter _ _ workspace

theorem confined_gather (h : audit.Tidy) (plan : Plan) : Confined audit.store (audit.gather plan) := by
  unfold gather
  refine .bind (Action.confined_of_tree fun workspace => ?_) fun found => ?_
  · obtain ⟨notices, phases, hinspect⟩ := audit.run_inspectAll plan.analyzers plan.files workspace
    rw [hinspect]
  refine .bind (confined_lint h plan.lintTargets) fun linted => fun _ => .nothing

theorem confined_deliver (plan : Plan) (aggregate : Aggregate) :
    Confined audit.store (audit.deliver plan aggregate).run := by
  unfold deliver
  refine Run.confined_bind (Run.confined_lift fun _ => .nothing) fun _ => ?_
  exact Run.confined_bind (confined_persist _) fun _ => Run.confined_pure _

theorem confined_conclude (plan : Plan) (findings : List Finding) :
    Confined audit.store (audit.conclude plan findings).run := by
  unfold conclude
  cases Aggregate.ofFindings findings with
  | error error => exact Run.confined_throw _
  | ok aggregate => exact confined_deliver plan aggregate

theorem confined_execute (h : audit.Tidy) (plan : Plan) :
    Confined audit.store (audit.execute plan).run := by
  unfold execute
  refine Run.confined_bind (Run.confined_say _) fun _ => ?_
  refine Run.confined_bind (Run.confined_lift fun _ => .nothing) fun _ => ?_
  exact Run.confined_bind (Run.confined_lift (confined_gather h plan)) fun found =>
    confined_conclude plan found

theorem confined_discovered {α : Type} (store : Store)
    (outcome : Except Discovery.DiscoveryError α) : Confined store (discovered outcome).run := by
  cases outcome with
  | error error => exact Run.confined_throw _
  | ok value => exact Run.confined_pure _

theorem confined_scanner : Confined audit.store audit.scanner.run :=
  Run.confined_bind Run.confined_get fun _ => confined_discovered _ _

theorem confined_allFiles (store : Store) (scanner : Discovery.Scanner) :
    Confined store (allFiles scanner).run := by
  unfold allFiles
  refine Run.confined_bind Run.confined_get fun workspace => ?_
  refine Run.confined_bind (confined_discovered _ _) fun found => ?_
  refine Run.confined_bind (Run.confined_lift fun _ => .nothing) fun _ => ?_
  rw [admitted_eq_discovered]
  exact confined_discovered _ _

theorem confined_targetFiles (store : Store) (scanner : Discovery.Scanner) (paths : List Path) :
    Confined store (targetFiles scanner paths).run := by
  unfold targetFiles
  refine Run.confined_bind Run.confined_get fun workspace => ?_
  refine Run.confined_bind (Run.confined_lift fun _ => .nothing) fun _ => ?_
  refine Run.confined_bind (confined_discovered _ _) fun found => ?_
  rw [admitted_eq_discovered]
  exact confined_discovered _ _

theorem confined_configuredAnalyzers : Confined audit.store audit.configuredAnalyzers := by
  refine Action.confined_of_tree fun workspace => ?_
  obtain ⟨notices, hconfigured⟩ := audit.run_configuredAnalyzers workspace
  rw [hconfigured]

theorem confined_filtered (h : audit.Tidy) (paths : Option (List Path)) (ids : List String) :
    Confined audit.store (audit.filtered paths ids).run := by
  unfold filtered
  refine Run.confined_bind confined_scanner fun scanner => ?_
  generalize audit.registry.select (ids.filter (· != Linter.analyzerId)) = selection
  obtain ⟨selected, unknown⟩ := selection
  refine Run.confined_bind (Run.confined_lift fun _ => .nothing) fun _ => ?_
  refine Run.confined_after_notice fun _ => ?_
  split
  · exact Run.confined_bind (Run.confined_say _) fun _ => Run.confined_pure _
  · cases paths with
    | none =>
      refine Run.confined_bind (confined_allFiles _ _) fun files => ?_
      exact Run.confined_bind (Run.confined_pure _) fun _ => confined_execute h _
    | some paths =>
      refine Run.confined_bind (confined_targetFiles _ _ _) fun files => ?_
      exact Run.confined_bind (Run.confined_pure _) fun _ => confined_execute h _

/-- Whatever becomes of a run, it changes the tree by nothing but deliveries into its store. -/
theorem confined_perform (h : audit.Tidy) (request : Request) :
    Confined audit.store (audit.perform request).run := by
  cases request with
  | full =>
    refine Run.confined_bind confined_scanner fun scanner => ?_
    refine Run.confined_bind (confined_allFiles _ _) fun files => ?_
    exact Run.confined_bind (Run.confined_lift confined_configuredAnalyzers) fun _ =>
      confined_execute h _
  | incremental paths =>
    refine Run.confined_bind confined_scanner fun scanner => ?_
    refine Run.confined_bind (confined_targetFiles _ _ _) fun files => ?_
    exact Run.confined_bind (Run.confined_lift confined_configuredAnalyzers) fun _ =>
      confined_execute h _
  | filtered paths ids => exact confined_filtered h paths ids

end Audit
end KotlinAudit
