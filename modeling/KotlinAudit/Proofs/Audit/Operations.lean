import KotlinAudit.Proofs.Audit.History
import KotlinAudit.Proofs.FileTree.Deleting

/-! Operations on a store one after the other, in any order. Their answers are those of a store that
keeps a baseline and a list of entries and no files at all, but for what cannot be read back. -/
namespace KotlinAudit

open FileTree (held)

namespace FileTree

variable {tree : FileTree} {dir : Path} {entries : List (String × Node)} {name : String}

theorem Shelf.deliver (h : tree.Shelf dir entries) (hname : tree.Admits dir name) (modified : Int)
    (change : Option Content → Content) :
    ∃ after, tree.deliver dir ⟨dir.child name, modified, change⟩ = (after, .ok ()) ∧
      after.here = tree.here ∧ after.Shelf dir (Node.setEntry name
        (some (.file (change (held entries name)) modified)) entries) := by
  obtain ⟨after, hupdate, hhere, hshelf⟩ := h.update hname modified change
  refine ⟨after, ?_, hhere, hshelf⟩
  rw [FileTree.deliver, makeDirectory_of_directory h.here h.node]
  dsimp only
  rw [hupdate]

end FileTree

namespace Store

/-- An operation on the baseline or on the history of a store. -/
inductive Operation
  | saveBaseline (metrics : Metrics) (findings : List Finding)
  | record (metrics : Metrics) (findings : List Finding) (baseline : Option Baseline)
  | loadBaseline
  | loadHistory
  | clearBaseline
  | clearHistory

/-- What an operation gives back. -/
inductive Answer
  | saved (outcome : Except PersistError Baseline)
  | recorded (outcome : Except RecordError HistoryEntry)
  | baseline (outcome : Except FileError (Option Baseline))
  | history (outcome : Except FileError (List HistoryEntry))
  | baselineCleared (outcome : Except FileError Bool)
  | historyCleared (outcome : Except FileError Bool)

/-- A text without the line breaks that a record keeps as they are. -/
def Seamless (text : String) : Prop := ∀ c ∈ ['\u0085', '\u2028', '\u2029'], c ∉ text.toList

instance (text : String) : Decidable (Seamless text) := List.decidableBAll _ _

namespace Operation

def run (store : Store) : Operation → Action Answer
  | saveBaseline metrics findings => .saved <$> store.saveBaseline metrics findings
  | record metrics findings baseline => .recorded <$> store.record metrics findings baseline
  | loadBaseline => .baseline <$> store.loadBaseline
  | loadHistory => .history <$> store.loadHistory
  | clearBaseline => .baselineCleared <$> store.clearBaseline
  | clearHistory => .historyCleared <$> store.clearHistory

/-- The name of the file that an operation works on. -/
def file : Operation → String
  | saveBaseline .. | loadBaseline | clearBaseline => "baseline.json"
  | record .. | loadHistory | clearHistory => "history.jsonl"

/-- An operation with finite metrics and with identifiers that keep to one line. -/
def Regular : Operation → Prop
  | saveBaseline metrics _ => metrics.Regular
  | record metrics findings baseline => metrics.Regular ∧
      (∀ finding ∈ findings, Seamless finding.id) ∧
      ∀ each, baseline = some each → ∀ id ∈ each.findingIds, Seamless id
  | _ => True

end Operation

/-- Operations one after the other, with their answers. -/
def perform (store : Store) (operations : List Operation) : Action (List Answer) :=
  operations.mapM (·.run store)

/-- What is to be kept of the answers so far: the baseline that was saved last since the baseline was
cleared, and the entries that were recorded since the history was cleared, the newest first. -/
structure Contents where
  baseline : Option Baseline
  entries : List HistoryEntry

namespace Contents

def empty : Contents := ⟨none, []⟩

def after (contents : Contents) : Answer → Contents
  | .saved (.ok baseline) => { contents with baseline := some baseline }
  | .recorded (.ok entry) => { contents with entries := entry :: contents.entries }
  | .baselineCleared _ => { contents with baseline := none }
  | .historyCleared _ => { contents with entries := [] }
  | _ => contents

def ofAnswers (answers : List Answer) : Contents := answers.foldl after empty

/-- What an operation gives back at some time if this is kept. A baseline or an entry that cannot be
read back is not loaded. -/
def answer (contents : Contents) (timestamp : Int) : Operation → Answer
  | .saveBaseline metrics findings => .saved (.ok (.ofFindings timestamp metrics findings))
  | .record metrics findings baseline =>
    .recorded ((entryOf timestamp metrics findings baseline).mapError .change)
  | .loadBaseline => .baseline (.ok (contents.baseline.filter fun each => each.Legible))
  | .loadHistory => .history (.ok (contents.entries.filter fun entry => entry.Legible))
  | .clearBaseline => .baselineCleared (.ok contents.baseline.isSome)
  | .clearHistory => .historyCleared (.ok (!contents.entries.isEmpty))

end Contents

/-- The files of the baseline and of the history. -/
def recordNames : List String := ["baseline.json", "history.jsonl"]

/-- An empty directory into which a baseline and a history can be written. -/
structure Fresh (store : Store) (tree : FileTree) : Prop where
  here : tree.here.isAbsolute
  empty : tree.node store.directory = .ok (.directory [])
  admits : ∀ name ∈ recordNames, tree.Admits store.directory name

/-- A directory of files that holds a baseline and the entries of a history and nothing else. -/
structure Shows (store : Store) (tree : FileTree) (files : List (String × Node))
    (contents : Contents) : Prop where
  admits : ∀ name ∈ recordNames, tree.Admits store.directory name
  shelf : tree.Shelf store.directory files
  nodup : (files.map Prod.fst).Nodup
  heldBaseline : held files "baseline.json" =
    contents.baseline.map fun baseline => .text baseline.document
  heldHistory : held files "history.jsonl" = historyContent contents.entries.reverse
  baseline : ∀ each, contents.baseline = some each → each.Regular
  formed : ∀ entry ∈ contents.entries, entry.Formed
  oneLine : ∀ entry ∈ contents.entries, entry.OneLine

/-- The files but for one of them stand in the directory as before. -/
def Leaves (store : Store) (file : String) (before after : FileTree) : Prop :=
  ∀ name ∈ recordNames, name ≠ file →
    after.node (store.directory.child name) = before.node (store.directory.child name)

variable {store : Store} {workspace : Workspace} {tree after : FileTree}
  {files : List (String × Node)} {contents : Contents} {operation : Operation}

theorem spared_of_seamless {text : String} (h : Seamless text) :
    Json.Spared Text.isLineBreak (.text text) := by
  intro c hc hsize
  by_contra hbreak
  have hrange : c.toNat = 0x85 ∨ c.toNat = 0x2028 ∨ c.toNat = 0x2029 := by
    simp only [Text.isLineBreak, Bool.not_eq_false, Bool.or_eq_true, Bool.and_eq_true,
      decide_eq_true_eq, beq_iff_eq] at hbreak
    omega
  refine h c ?_ hc
  rcases hrange with heq | heq | heq
  · rw [show c = '\u0085' from Char.toNat_inj.1 heq]
    decide
  · rw [show c = '\u2028' from Char.toNat_inj.1 heq]
    decide
  · rw [show c = '\u2029' from Char.toNat_inj.1 heq]
    decide

/-- The line of an entry is not broken by identifiers that keep to one line. -/
theorem oneLine_of_entryOf {timestamp : Int} {metrics : Metrics} {findings : List Finding}
    {old : Option Baseline} {entry : HistoryEntry}
    (h : entryOf timestamp metrics findings old = .ok entry)
    (hids : ∀ finding ∈ findings, Seamless finding.id)
    (hold : ∀ each, old = some each → ∀ id ∈ each.findingIds, Seamless id) : entry.OneLine := by
  obtain ⟨-, hfindings, hcomparison⟩ := entryOf_eq_ok h
  have hseamless : ∀ id ∈ findings.map (·.id), Seamless id := List.forall_mem_map.2 hids
  rw [HistoryEntry.OneLine, HistoryEntry.ids, List.forall_mem_append, hfindings]
  refine ⟨fun id hid => spared_of_seamless (hseamless id hid), ?_⟩
  cases hentry : entry.comparison with
  | none => exact List.forall_mem_nil _
  | some comparison =>
    obtain ⟨baseline, hbaseline, hmade⟩ := hcomparison comparison hentry
    exact fun id hid => spared_of_seamless
      ((Baseline.mem_ids_of_compare hmade id hid).elim (hold baseline hbaseline id) (hseamless id))

theorem filter_legible_eq_self_iff {baseline : Option Baseline} :
    (baseline.filter fun each => each.Legible) = baseline ↔
      ∀ each, baseline = some each → each.Legible := by
  cases baseline with
  | none => simp
  | some each => simp

theorem isSome_historyContent (entries : List HistoryEntry) :
    (historyContent entries).isSome = !entries.isEmpty := by
  cases entries <;> rfl

/-! ### Single operations -/

theorem run_map {α β : Type} (make : α → β) {action : Action α} {answer : α} {after : Workspace}
    (h : action.run workspace = (answer, after)) :
    (make <$> action).run workspace = (make answer, after) := by
  rw [StateT.run_map, h]
  rfl

theorem Leaves.refl (store : Store) (file : String) (tree : FileTree) :
    store.Leaves file tree tree := fun _ _ _ => rfl

/-- Setting the entry of a file leaves all other files. -/
theorem Shows.leaves (h : store.Shows tree files contents) (file : String) {new : Option Node}
    (hhere : after.here = tree.here)
    (hshelf : after.Shelf store.directory (Node.setEntry file new files)) :
    store.Leaves file tree after := fun name hname hne =>
  h.shelf.node_of_lookup hshelf hhere (h.admits name hname) (Node.lookup_setEntry_of_ne _ _ hne)

theorem Shows.admitted (h : store.Shows tree files contents) (hhere : after.here = tree.here) :
    ∀ name ∈ recordNames, after.Admits store.directory name :=
  fun name hname => (h.admits name hname).of_here hhere

/-- An operation gives back what it has to while something is kept, changes that as its answer says,
and leaves all files but its own. -/
def Operation.Obeys (store : Store) (contents : Contents) (workspace : Workspace)
    (operation : Operation) : Prop :=
  ∃ (after : Workspace) (files : List (String × Node)),
    (operation.run store).run workspace =
      (contents.answer workspace.clock.stamp operation, after) ∧
    store.Shows after.tree files
      (contents.after (contents.answer workspace.clock.stamp operation)) ∧
    store.Leaves operation.file workspace.tree after.tree

theorem Operation.obeys_of_run {operation : Operation} {answer : Answer} {changed : Contents}
    {after : Workspace} (hanswer : contents.answer workspace.clock.stamp operation = answer)
    (hchanged : contents.after answer = changed)
    (hrun : (operation.run store).run workspace = (answer, after))
    (hshows : store.Shows after.tree files changed)
    (hleaves : store.Leaves operation.file workspace.tree after.tree) :
    operation.Obeys store contents workspace := by
  subst hanswer hchanged
  exact ⟨after, files, hrun, hshows, hleaves⟩

theorem Shows.obeys_saveBaseline (h : store.Shows workspace.tree files contents) {metrics : Metrics}
    (hmetrics : metrics.Regular) (findings : List Finding) :
    (Operation.saveBaseline metrics findings).Obeys store contents workspace := by
  have hregular := Baseline.regular_ofFindings workspace.clock.stamp hmetrics findings
  obtain ⟨after, hdeliver, hhere, hshelf⟩ := h.shelf.deliver (h.admits "baseline.json" (by decide))
    (workspace.clock.afterStamp.time * 1000000)
    fun _ => .text (Baseline.ofFindings workspace.clock.stamp metrics findings).document
  obtain ⟨notices, hrun, -⟩ := Audit.run_saveBaseline_eq store metrics findings workspace hdeliver
  refine Operation.obeys_of_run rfl rfl (run_map Answer.saved hrun) ⟨h.admitted hhere, hshelf,
    Node.nodup_setEntry h.nodup _ _, ?_, ?_, ?_, h.formed, h.oneLine⟩
    (h.leaves "baseline.json" hhere hshelf)
  · rw [FileTree.held_setEntry, if_pos rfl]
    rfl
  · rw [FileTree.held_setEntry_of_ne _ _ (by decide)]
    exact h.heldHistory
  · intro each heq
    exact Option.some.inj heq ▸ hregular

theorem Shows.obeys_record (h : store.Shows workspace.tree files contents) {metrics : Metrics}
    {findings : List Finding} {old : Option Baseline}
    (hregular : (Operation.record metrics findings old).Regular) :
    (Operation.record metrics findings old).Obeys store contents workspace := by
  obtain ⟨hmetrics, hids, hold⟩ := hregular
  cases hentry : entryOf workspace.clock.stamp metrics findings old with
  | error error =>
    have hanswer : contents.answer workspace.clock.stamp (.record metrics findings old) =
        .recorded (.error (.change error)) := by
      rw [Contents.answer, hentry]
      rfl
    exact Operation.obeys_of_run hanswer rfl (run_map Answer.recorded (run_record_of_error hentry)) h
      (.refl store _ _)
  | ok entry =>
    have hanswer : contents.answer workspace.clock.stamp (.record metrics findings old) =
        .recorded (.ok entry) := by
      rw [Contents.answer, hentry]
      rfl
    obtain ⟨after, hdeliver, hhere, hshelf⟩ := h.shelf.deliver (h.admits "history.jsonl" (by decide))
      (workspace.clock.afterStamp.time * 1000000)
      fun old => (old.getD (.text "")).append entry.line
    obtain ⟨notices, hrun, -⟩ := Audit.run_record_eq store hentry hdeliver
    have hchanged : contents.after (.recorded (.ok entry)) =
        { contents with entries := entry :: contents.entries } := rfl
    refine Operation.obeys_of_run hanswer hchanged (run_map Answer.recorded hrun)
      ⟨h.admitted hhere, hshelf, Node.nodup_setEntry h.nodup _ _, ?_, ?_, h.baseline, ?_, ?_⟩
      (h.leaves "history.jsonl" hhere hshelf)
    · rw [FileTree.held_setEntry_of_ne _ _ (by decide)]
      exact h.heldBaseline
    · rw [FileTree.held_setEntry, if_pos rfl, h.heldHistory, append_historyContent,
        ← List.reverse_cons]
    · exact List.forall_mem_cons.2 ⟨formed_of_entryOf hentry hmetrics, h.formed⟩
    · exact List.forall_mem_cons.2 ⟨oneLine_of_entryOf hentry hids hold, h.oneLine⟩

theorem Shows.run_loadBaseline (h : store.Shows workspace.tree files contents) :
    ∃ notices, store.loadBaseline.run workspace =
      (.ok (contents.baseline.filter fun each => each.Legible),
        { workspace with notices := notices }) :=
  run_loadBaseline_of_shelf h.shelf (h.admits _ (by decide)) h.heldBaseline h.baseline

theorem Shows.run_loadHistory (h : store.Shows workspace.tree files contents) :
    ∃ notices, store.loadHistory.run workspace =
      (.ok (contents.entries.filter fun entry => entry.Legible),
        { workspace with notices := notices }) := by
  have hload := run_loadHistory_of_shelf h.shelf (h.admits _ (by decide)) h.heldHistory
    (fun entry hentry => h.formed entry (List.mem_reverse.1 hentry))
    fun entry hentry => h.oneLine entry (List.mem_reverse.1 hentry)
  rwa [← List.filter_reverse, List.reverse_reverse] at hload

theorem Shows.obeys_loadBaseline (h : store.Shows workspace.tree files contents) :
    Operation.loadBaseline.Obeys store contents workspace := by
  obtain ⟨notices, hrun⟩ := h.run_loadBaseline
  exact Operation.obeys_of_run rfl rfl (run_map Answer.baseline hrun) h (.refl store _ _)

theorem Shows.obeys_loadHistory (h : store.Shows workspace.tree files contents) :
    Operation.loadHistory.Obeys store contents workspace := by
  obtain ⟨notices, hrun⟩ := h.run_loadHistory
  exact Operation.obeys_of_run rfl rfl (run_map Answer.history hrun) h (.refl store _ _)

theorem Shows.run_clear (h : store.Shows workspace.tree files contents) (file : String)
    (hfile : file ∈ recordNames) :
    ∃ after : FileTree, (clear (store.directory.child file)).run workspace =
        (.ok (held files file).isSome, { workspace with tree := after }) ∧
      after.here = workspace.tree.here ∧
      after.Shelf store.directory (Node.setEntry file none files) :=
  run_clear_of_shelf h.shelf h.nodup (h.admits file hfile)

theorem Shows.obeys_clearBaseline (h : store.Shows workspace.tree files contents) :
    Operation.clearBaseline.Obeys store contents workspace := by
  obtain ⟨after, hrun, hhere, hshelf⟩ := h.run_clear "baseline.json" (by decide)
  rw [h.heldBaseline, Option.isSome_map] at hrun
  have hclear : store.clearBaseline = clear (store.directory.child "baseline.json") := rfl
  have hchanged : contents.after (.baselineCleared (.ok contents.baseline.isSome)) =
      { contents with baseline := none } := rfl
  rw [← hclear] at hrun
  refine Operation.obeys_of_run rfl hchanged (run_map Answer.baselineCleared hrun)
    ⟨h.admitted hhere, hshelf, Node.nodup_setEntry h.nodup _ _,
      FileTree.held_setEntry_none h.nodup _, ?_,
      fun _ heach => absurd heach.symm (Option.some_ne_none _), h.formed, h.oneLine⟩
    (h.leaves "baseline.json" hhere hshelf)
  rw [FileTree.held_setEntry_of_ne _ _ (by decide)]
  exact h.heldHistory

theorem Shows.obeys_clearHistory (h : store.Shows workspace.tree files contents) :
    Operation.clearHistory.Obeys store contents workspace := by
  obtain ⟨after, hrun, hhere, hshelf⟩ := h.run_clear "history.jsonl" (by decide)
  rw [h.heldHistory, isSome_historyContent, List.isEmpty_reverse] at hrun
  have hclear : store.clearHistory = clear (store.directory.child "history.jsonl") := rfl
  have hchanged : contents.after (.historyCleared (.ok (!contents.entries.isEmpty))) =
      { contents with entries := [] } := rfl
  rw [← hclear] at hrun
  refine Operation.obeys_of_run rfl hchanged (run_map Answer.historyCleared hrun)
    ⟨h.admitted hhere, hshelf, Node.nodup_setEntry h.nodup _ _, ?_,
      FileTree.held_setEntry_none h.nodup _, h.baseline, List.forall_mem_nil _, List.forall_mem_nil _⟩
    (h.leaves "history.jsonl" hhere hshelf)
  rw [FileTree.held_setEntry_of_ne _ _ (by decide)]
  exact h.heldBaseline

theorem Shows.obeys (h : store.Shows workspace.tree files contents) (hregular : operation.Regular) :
    operation.Obeys store contents workspace := by
  cases operation with
  | saveBaseline metrics findings => exact h.obeys_saveBaseline hregular findings
  | record metrics findings baseline => exact h.obeys_record hregular
  | loadBaseline => exact h.obeys_loadBaseline
  | loadHistory => exact h.obeys_loadHistory
  | clearBaseline => exact h.obeys_clearBaseline
  | clearHistory => exact h.obeys_clearHistory

/-! ### Operations one after the other -/

theorem Ready.fresh (h : store.Ready tree) : store.Fresh tree :=
  ⟨h.here, h.empty, fun name hname => h.admits name (by
    have hsub : recordNames ⊆ fileNames := by decide
    exact hsub hname)⟩

theorem Fresh.shows (h : store.Fresh tree) : store.Shows tree [] .empty := by
  refine ⟨h.admits, ⟨h.here, h.empty, ?_⟩, List.nodup_nil, rfl, rfl,
    fun _ heach => absurd heach.symm (Option.some_ne_none _), List.forall_mem_nil _,
    List.forall_mem_nil _⟩
  intro name node hnode
  cases hnode

theorem run_perform_cons {rest : List Operation} {answer : Answer} {answers : List Answer}
    {middle last : Workspace} (hfirst : (operation.run store).run workspace = (answer, middle))
    (hrest : (store.perform rest).run middle = (answers, last)) :
    (store.perform (operation :: rest)).run workspace = (answer :: answers, last) := by
  rw [perform, List.mapM_cons, StateT.run_bind, hfirst]
  change StateT.run (m := Id) (store.perform rest >>= fun answers => pure (answer :: answers))
    middle = _
  rw [StateT.run_bind, hrest]
  rfl

/-- After operations the files hold what is to be kept of their answers. -/
theorem Shows.run_perform (h : store.Shows workspace.tree files contents)
    {operations : List Operation} (hregular : ∀ operation ∈ operations, operation.Regular) :
    ∃ (answers : List Answer) (after : Workspace) (files : List (String × Node)),
      (store.perform operations).run workspace = (answers, after) ∧
      store.Shows after.tree files (answers.foldl Contents.after contents) := by
  induction operations generalizing workspace files contents with
  | nil => exact ⟨[], workspace, files, rfl, h⟩
  | cons operation rest ih =>
    obtain ⟨hfirst, hothers⟩ := List.forall_mem_cons.1 hregular
    obtain ⟨middle, held, hrun, hshows, -⟩ := h.obeys hfirst
    obtain ⟨answers, after, files, hrest, hlast⟩ := ih hshows hothers
    exact ⟨_, after, files, run_perform_cons hrun hrest, hlast⟩

/-- After any operations that begin with an empty directory, every further one gives back what it has
to: the baseline that is loaded is the one that was saved last since it was cleared, the history that is
loaded has the entries that were recorded since it was cleared, and clearing tells whether there was
something. Only a baseline or an entry that cannot be read back is not loaded. No operation touches
another file than its own. -/
theorem answers_perform {start : Workspace} (hfresh : store.Fresh start.tree)
    {operations : List Operation} (hregular : ∀ operation ∈ operations, operation.Regular)
    {answers : List Answer} (hrun : (store.perform operations).run start = (answers, workspace)) :
    (∀ next : Operation, next.Regular →
      ((next.run store).run workspace).1 =
        (Contents.ofAnswers answers).answer workspace.clock.stamp next ∧
      store.Leaves next.file workspace.tree ((next.run store).run workspace).2.tree) ∧
    ((store.loadBaseline.run workspace).1 = .ok (Contents.ofAnswers answers).baseline ↔
      ∀ each, (Contents.ofAnswers answers).baseline = some each → each.Legible) ∧
    ((store.loadHistory.run workspace).1 = .ok (Contents.ofAnswers answers).entries ↔
      ∀ entry ∈ (Contents.ofAnswers answers).entries, entry.Legible) := by
  obtain ⟨given, after, files, hperformed, hafter⟩ := hfresh.shows.run_perform hregular
  obtain ⟨rfl, rfl⟩ := Prod.mk.inj (hrun.symm.trans hperformed)
  have hshows : store.Shows workspace.tree files (.ofAnswers answers) := hafter
  refine ⟨fun next hnext => ?_, ?_, ?_⟩
  · obtain ⟨after, others, hnext, -, hleaves⟩ := hshows.obeys hnext
    rw [hnext]
    exact ⟨rfl, hleaves⟩
  · obtain ⟨notices, hload⟩ := hshows.run_loadBaseline
    rw [hload, Except.ok.injEq, filter_legible_eq_self_iff]
  · obtain ⟨notices, hload⟩ := hshows.run_loadHistory
    rw [hload, Except.ok.injEq, List.filter_eq_self]
    simp only [decide_eq_true_eq]

/-- An entry with a line feed in an identifier is recorded, loaded and cleared, while there is no
baseline. -/
theorem answers_perform_broken : ∃ workspace,
    (Audit.sample.store.perform [.record .empty [brokenFinding] none]).run Audit.sampleStart =
      ([.recorded (.ok brokenEntry)], workspace) ∧
    (Audit.sample.store.loadHistory.run workspace).1 = .ok [brokenEntry] ∧
    ((Operation.clearHistory.run Audit.sample.store).run workspace).1 = .historyCleared (.ok true) ∧
    ((Operation.clearBaseline.run Audit.sample.store).run workspace).1 =
      .baselineCleared (.ok false) := by
  have hfresh : Audit.sample.store.Fresh Audit.sampleStart.tree :=
    Audit.sample_ready.fresh
  have hregular : (Operation.record .empty [brokenFinding] none).Regular :=
    ⟨Metrics.empty_regular, by decide, fun _ heach => absurd heach.symm (Option.some_ne_none _)⟩
  have hanswer : (Contents.ofAnswers []).answer Audit.sampleStart.clock.stamp
      (.record .empty [brokenFinding] none) = .recorded (.ok brokenEntry) := by
    rw [Contents.answer, show entryOf Audit.sampleStart.clock.stamp .empty [brokenFinding] none =
      .ok brokenEntry from rfl]
    rfl
  have hnothing : (Audit.sample.store.perform []).run Audit.sampleStart =
      ([], Audit.sampleStart) := rfl
  have hfirst := ((answers_perform hfresh (List.forall_mem_nil _) hnothing).1 _ hregular).1
  rw [hanswer] at hfirst
  generalize hoperation : Operation.record .empty [brokenFinding] none = operation at *
  have hrun : (Audit.sample.store.perform [operation]).run Audit.sampleStart =
      ([.recorded (.ok brokenEntry)],
        ((operation.run Audit.sample.store).run Audit.sampleStart).2) :=
    run_perform_cons (Prod.ext hfirst rfl) rfl
  obtain ⟨hnext, -, hhistory⟩ :=
    answers_perform hfresh (List.forall_mem_singleton.2 hregular) hrun
  refine ⟨_, hrun, hhistory.2 ?_, (hnext .clearHistory trivial).1, (hnext .clearBaseline trivial).1⟩
  exact List.forall_mem_singleton.2 brokenEntry_legible

end Store
end KotlinAudit
