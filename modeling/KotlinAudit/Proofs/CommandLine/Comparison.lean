import KotlinAudit.Proofs.Audit.Session
import KotlinAudit.Proofs.CommandLine.Ending
import KotlinAudit.Proofs.Console.Overview

/-! What the program says of the comparisons in the history. It looks for the newest entry that has been
compared, so that it speaks of the newest run unless that has found no baseline although an earlier one
has. -/
namespace KotlinAudit

namespace FullRun

/-- The comparison in the entry of a run is shown as it is. -/
theorem Recorded.comparisonLines_eq {run : FullRun} {before : Option FullRun} {entry : HistoryEntry}
    (h : run.Recorded before entry) {comparison : Comparison}
    (hentry : entry.comparison = some comparison) (color emoji : Bool) :
    Console.comparisonLines comparison color emoji =
      .ok (Console.tableLines Console.comparisonColumns (some (Console.ruleSign color))
        ((Console.comparisonRows comparison).map fun row => row.map String.toList)) := by
  obtain ⟨old, -, -, hcompare⟩ := h.exists_compare hentry
  have hnames : ∀ name ∈ Metrics.changeNames, Console.Literal name.toList := by decide
  exact Console.comparisonLines_eq
    (fun change hchange => hnames _ (Baseline.name_mem_of_compare hcompare change hchange)) color emoji

end FullRun

namespace CommandLine

open Audit (sample sampleStart leftTree left_out left_source left_resolve)

variable {store : Store} {start workspace : Workspace} {events : List Event}
  {processors : Option Int} {source : Source} {config : Config} {entries : List HistoryEntry}
  {entry : HistoryEntry}

/-- What is said of an entry of the history, if there is one: its time, how many findings it has and its
comparison, or that there is no comparison. -/
def account (output : Config.Output) : Option HistoryEntry → Except Breakdown Outcome
  | some ⟨timestamp, _, count, _, some comparison⟩ => do
    let moment ← (Moment.ofMillis timestamp).mapError .moment
    let lines ← (Console.comparisonLines comparison output.color output.emoji).mapError .markup
    return ⟨0, ("Run of " ++ moment.text ++ ": " ++ toString count ++ " finding(s)") :: lines⟩
  | _ => .ok ⟨0, ["No comparison recorded yet. Run 'codeqa analyze' at least twice."]⟩

theorem comparisonOf_eq (output : Config.Output) (entries : List HistoryEntry) :
    comparisonOf output entries = account output (entries.find? (·.comparison.isSome)) := rfl

/-- What is said of an entry after what has been said while the history was loaded. -/
def told (store : Store) (output : Config.Output) (workspace : Workspace)
    (about? : Option HistoryEntry) : Except Breakdown Outcome :=
  let loaded := (store.loadHistory.run (.ofTree workspace.tree workspace.clock)).2
  (account output about?).map fun last =>
    ⟨last.exitCode, ((loaded.notices.filter (!·.isDebug)).map (·.line output.emoji)) ++ last.lines⟩

theorem account_of_none (output : Config.Output) (h : entry.comparison = none) :
    account output (some entry) = account output none := by
  obtain ⟨timestamp, metrics, count, ids, comparison⟩ := entry
  obtain rfl : comparison = none := h
  rfl

theorem told_of_none (store : Store) (output : Config.Output) (workspace : Workspace)
    (h : entry.comparison = none) :
    told store output workspace (some entry) = told store output workspace none := by
  rw [told, account_of_none output h, told]

/-- Of an entry that has been compared all is said, if its time is a moment of the calendar. -/
theorem account_of_some (output : Config.Output) {comparison : Comparison} {moment : Moment}
    {lines : List String} (h : entry.comparison = some comparison)
    (hmoment : Moment.ofMillis entry.timestamp = .ok moment)
    (hlines : Console.comparisonLines comparison output.color output.emoji = .ok lines) :
    account output (some entry) = .ok ⟨0, ("Run of " ++ moment.text ++ ": " ++
      toString entry.findingCount ++ " finding(s)") :: lines⟩ := by
  obtain ⟨timestamp, metrics, count, ids, compared⟩ := entry
  obtain rfl : compared = some comparison := h
  rw [account, hmoment, hlines]
  rfl

/-- What is said of an entry tells whether it has been compared. -/
theorem told_ne_told_none (store : Store) (output : Config.Output) (workspace : Workspace)
    (h : entry.comparison.isSome = true) :
    told store output workspace (some entry) ≠ told store output workspace none := by
  obtain ⟨timestamp, metrics, count, ids, compared⟩ := entry
  obtain ⟨comparison, rfl⟩ : ∃ comparison, compared = some comparison := Option.isSome_iff_exists.1 h
  intro heq
  obtain ⟨last, hlast, hsame⟩ := Outcome.map_eq_ok.1 heq
  obtain ⟨moment, -, hrest⟩ := Outcome.bind_eq_ok.1 hlast
  obtain ⟨lines, -, hsaid⟩ := Outcome.bind_eq_ok.1 hrest
  cases hsaid
  have hhead := (List.cons.inj (List.append_cancel_left (congrArg Outcome.lines hsame))).1
  have hfirst := congrArg (·.toList.head?) hhead
  simp [String.toList_append] at hfirst

theorem compare_of_load {loaded : List HistoryEntry}
    (hsettings : settings workspace.tree processors source = .ok config)
    (hdirectory : config.outputDirectory = store.directory)
    (hload : (store.loadHistory.run (.ofTree workspace.tree workspace.clock)).1 = .ok loaded) :
    (compare processors source workspace).1 =
      told store config.output workspace (loaded.find? (·.comparison.isSome)) := by
  obtain ⟨directory⟩ := store
  obtain rfl : config.outputDirectory = directory := hdirectory
  unfold compare told
  rw [hsettings]
  dsimp only
  generalize hrun : (Store.mk config.outputDirectory).loadHistory.run
    (.ofTree workspace.tree workspace.clock) = outcome at *
  obtain ⟨entries, after⟩ := outcome
  obtain rfl : entries = .ok loaded := hload
  dsimp only
  rw [← comparisonOf_eq]
  cases comparisonOf config.output loaded <;> rfl

/-- What is said of the entry that is found is what is to be said of the newest one exactly if that has
been compared or if no entry that can be read back has been. -/
theorem told_eq_iff (store : Store) (output : Config.Output) (workspace : Workspace)
    (h : ∀ newest, entries.getLast? = some newest → newest.Legible) :
    told store output workspace
        ((entries.filter fun entry => entry.Legible).reverse.find? (·.comparison.isSome)) =
      told store output workspace entries.getLast? ↔
    (∃ newest, entries.getLast? = some newest ∧ newest.comparison.isSome) ∨
      ∀ entry ∈ entries, entry.Legible → entry.comparison = none := by
  cases hlast : entries.getLast? with
  | none =>
    obtain rfl := List.getLast?_eq_none_iff.1 hlast
    refine iff_of_true ?_ (.inr fun entry hentry => absurd hentry List.not_mem_nil)
    rw [List.filter_nil, List.reverse_nil, List.find?_nil]
  | some newest =>
    have hnewest := h newest hlast
    by_cases hcompared : newest.comparison.isSome = true
    · refine iff_of_true ?_ (.inl ⟨newest, rfl, hcompared⟩)
      obtain ⟨front, rfl⟩ := List.getLast?_eq_some_iff.1 hlast
      have hkept : [newest].filter (fun entry => entry.Legible) = [newest] :=
        List.filter_cons_of_pos (decide_eq_true hnewest)
      rw [List.filter_append, hkept, List.reverse_concat]
      simp only [List.find?_cons, hcompared]
    · have hnone : newest.comparison = none := by simpa using hcompared
      rw [told_of_none store output workspace hnone, or_iff_right]
      swap
      · rintro ⟨other, hother, hsome⟩
        cases hother
        exact hcompared hsome
      cases hfound : (entries.filter fun entry => entry.Legible).reverse.find?
          (·.comparison.isSome) with
      | none =>
        refine iff_of_true rfl fun entry hentry hlegible => ?_
        have hloaded := List.find?_eq_none.1 hfound entry
          (List.mem_reverse.2 (List.mem_filter.2 ⟨hentry, decide_eq_true hlegible⟩))
        simpa using hloaded
      | some other =>
        have hother := List.find?_some hfound
        obtain ⟨hmem, hlegible⟩ := List.mem_filter.1 (List.mem_reverse.1 (List.mem_of_find?_eq_some hfound))
        refine iff_of_false (told_ne_told_none store output workspace hother) fun hall => ?_
        rw [hall other hmem (of_decide_eq_true hlegible)] at hother
        cases hother

/-- In terms of the runs: the last run has to find the baseline of a run before it, or no run may have
found one. -/
theorem compared_iff (h : Chronicle events entries) (hentries : ∀ entry ∈ entries, entry.Legible)
    (hbaselines : ∀ run, .run run ∈ events → run.baseline.Legible) {front back : List Event}
    {run : FullRun} (hevents : events = front ++ .run run :: back)
    (hback : ∀ event ∈ back, event = .deletion) :
    ((∃ newest, entries.getLast? = some newest ∧ newest.comparison.isSome) ∨
      ∀ entry ∈ entries, entry.Legible → entry.comparison = none) ↔
    (Event.standing? front).isSome ∨ ∀ before other after, events = before ++ .run other :: after →
      Event.standing? before = none := by
  have hcompared : ∀ {before after : List Event} {other : FullRun} {entry : HistoryEntry},
      events = before ++ .run other :: after → other.Recorded (Event.standing? before) entry →
        (entry.comparison.isSome ↔ (Event.standing? before).isSome) := by
    intro before after other entry hother hrecorded
    rw [hrecorded.isSome_comparison_iff, Option.isSome_iff_exists]
    refine exists_congr fun old => and_iff_left_of_imp fun hold => hbaselines old ?_
    rw [hother]
    exact List.mem_append_left _ (Event.mem_of_standing? hold)
  refine or_congr ?_ ?_
  · rw [hevents] at h
    obtain ⟨newest, -, hrecorded, hnewest⟩ := h.exists_entry
    rw [hnewest hback, ← hcompared hevents hrecorded]
    exact ⟨fun ⟨_, hsame, hsome⟩ => Option.some.inj hsame ▸ hsome, fun hsome => ⟨newest, rfl, hsome⟩⟩
  · constructor
    · intro hnone before other after hother
      rw [hother] at h
      obtain ⟨entry, hentry, hrecorded, -⟩ := h.exists_entry
      refine Option.not_isSome_iff_eq_none.1 (mt (hcompared hother hrecorded).2 ?_)
      exact Option.not_isSome_iff_eq_none.2 (hnone entry hentry (hentries entry hentry))
    · intro hnone entry hentry _
      obtain ⟨before, other, after, hother, hrecorded⟩ := h.exists_run hentry
      refine Option.not_isSome_iff_eq_none.1 (mt (hcompared hother hrecorded).1 ?_)
      exact Option.not_isSome_iff_eq_none.2 (hnone before other after hother)

/-- After any full runs and deletions of the baseline that begin with an empty directory, the program
speaks of the newest entry that can be read back and has been compared. That is what is to be said of the
newest run, the comparison if it has been compared and else that there is none, exactly if the newest run
has found the baseline of the run before it or no run has found one. -/
theorem compare_course (hstart : store.Ready start.tree) (h : Course store start events workspace)
    (hsettings : settings workspace.tree processors source = .ok config)
    (hdirectory : config.outputDirectory = store.directory) :
    ∃ entries, Chronicle events entries ∧
      (∀ entry ∈ entries, ∀ comparison, entry.comparison = some comparison →
        ∀ moment, Moment.ofMillis entry.timestamp = .ok moment → ∃ lines,
          Console.comparisonLines comparison config.output.color config.output.emoji = .ok lines ∧
          account config.output (some entry) = .ok ⟨0, ("Run of " ++ moment.text ++ ": " ++
            toString entry.findingCount ++ " finding(s)") :: lines⟩) ∧
      (compare processors source workspace).1 = told store config.output workspace
        ((entries.filter fun entry => entry.Legible).reverse.find? (·.comparison.isSome)) ∧
      ((∀ newest, entries.getLast? = some newest → newest.Legible) →
        ((compare processors source workspace).1 =
            told store config.output workspace entries.getLast? ↔
          (∃ newest, entries.getLast? = some newest ∧ newest.comparison.isSome) ∨
            ∀ entry ∈ entries, entry.Legible → entry.comparison = none)) ∧
      ((∀ entry ∈ entries, entry.Legible) → (∀ run, .run run ∈ events → run.baseline.Legible) →
        ∀ front run back, events = front ++ .run run :: back → (∀ event ∈ back, event = .deletion) →
          ((compare processors source workspace).1 =
              told store config.output workspace entries.getLast? ↔
            (Event.standing? front).isSome ∨
              ∀ before other after, events = before ++ .run other :: after →
                Event.standing? before = none)) := by
  obtain ⟨entries, hholds, hchronicle⟩ := h.exists_entries hstart
  have hloaded : (store.loadHistory.run (.ofTree workspace.tree workspace.clock)).1 =
      .ok (entries.filter fun entry => entry.Legible).reverse := by
    have hfresh : store.Holds (Workspace.ofTree workspace.tree workspace.clock).tree entries
        ((Event.standing? events).map FullRun.baseline) := hholds
    obtain ⟨notices, hload⟩ := hfresh.run_loadHistory
    rw [hload]
  have hcompare := compare_of_load hsettings hdirectory hloaded
  refine ⟨entries, hchronicle, ?_, hcompare, ?_, ?_⟩
  · intro entry hentry comparison hcomparison moment hmoment
    obtain ⟨front, run, back, -, hrecorded⟩ := hchronicle.exists_run hentry
    have hlines := hrecorded.comparisonLines_eq hcomparison config.output.color config.output.emoji
    exact ⟨_, hlines, account_of_some config.output hcomparison hmoment hlines⟩
  · intro hnewest
    rw [hcompare]
    exact told_eq_iff store config.output workspace hnewest
  · intro hentries hbaselines front run back hevents hback
    rw [hcompare, told_eq_iff store config.output workspace fun newest hnewest =>
      hentries newest (List.mem_of_getLast? hnewest)]
    exact compared_iff hchronicle hentries hbaselines hevents hback

theorem left_settings (files : List (String × Node)) (here : Path) :
    settings (leftTree files here) none sampleSource = .ok sampleConfig := by
  have hfile : ∀ name, (leftTree files here).Admits ⟨1, ["src"]⟩ name →
      (leftTree files here).hasFile (Path.child ⟨1, ["src"]⟩ name) = .ok false := by
    intro name hname
    have hnode := FileTree.node_child (left_source files here) hname nofun
    rw [List.lookup_nil] at hnode
    unfold FileTree.hasFile FileTree.node?
    rw [hnode]
    rfl
  have hadmits : ∀ name ∈ [Config.fileName, Config.sharedFileName],
      FileTree.refusal? (Path.child ⟨1, ["src"]⟩ name) = none ∧ name ≠ ".." ∧
        name.utf8ByteSize ≤ FileTree.maxNameSize := by decide
  refine settings_of_missing (left_resolve files here) (hfile _ ?_) (hfile _ ?_)
  · obtain ⟨hpath, hnotUp, hsize⟩ := hadmits Config.fileName (by decide)
    exact ⟨hpath, hnotUp, hsize⟩
  · obtain ⟨hpath, hnotUp, hsize⟩ := hadmits Config.sharedFileName (by decide)
    exact ⟨hpath, hnotUp, hsize⟩

/-- Two runs of the sample, the deletion of the baseline and a third run, after which its source is still
missing. -/
theorem exists_sampleCourse : ∃ (run again third : FullRun) (workspace : Workspace),
    run.SampleRuns again ∧
    Course sample.store sampleStart [.run run, .run again, .deletion, .run third] workspace ∧
    settings workspace.tree none sampleSource = .ok sampleConfig := by
  obtain ⟨run, again, hruns⟩ := FullRun.exists_sampleRuns
  have hfirst : Course sample.store sampleStart ([] ++ [.run run]) run.after :=
    .run (hruns.workspace ▸ .start) (hruns.audit ▸ FullRun.sample_serves)
  have hsecond : Course sample.store sampleStart ([.run run] ++ [.run again]) again.after :=
    .run (hfirst.edit hruns.clears.here hruns.clears.node)
      (hruns.clears.audit ▸ FullRun.sample_serves)
  obtain ⟨_, hheld, -⟩ := hsecond.deletion.exists_entries Audit.sample_ready
  rw [Event.standing?_deletion, Option.map_none] at hheld
  obtain ⟨third, hclears⟩ := FullRun.exists_clears hheld hruns.clears.metrics
    fun each heach => absurd heach (Option.some_ne_none each).symm
  have hthird : Course sample.store sampleStart ([.run run, .run again, .deletion] ++ [.run third])
      third.after :=
    .run (hsecond.deletion.edit hclears.here hclears.node) (hclears.audit ▸ FullRun.sample_serves)
  obtain ⟨_, hholds, -⟩ := hthird.exists_entries Audit.sample_ready
  obtain ⟨files, hshelf, -⟩ := hholds.shelf
  exact ⟨run, again, third, { third.after with tree := leftTree files third.after.tree.here }, hruns,
    hthird.edit rfl ((left_out _ _).trans hshelf.node.symm), left_settings files third.after.tree.here⟩

/-- The program shows the comparison of the second run, and not what is to be said of the newest one, which
has found no baseline. -/
theorem compare_course_sample : ∃ (run again third : FullRun) (workspace : Workspace),
    Course sample.store sampleStart [.run run, .run again, .deletion, .run third] workspace ∧
    settings workspace.tree none sampleSource = .ok sampleConfig ∧
    ∃ first second newest,
      Chronicle [.run run, .run again, .deletion, .run third] [first, second, newest] ∧
      second.comparison.isSome ∧ newest.comparison = none ∧
      (compare none sampleSource workspace).1 =
        told sample.store sampleConfig.output workspace (some second) ∧
      (compare none sampleSource workspace).1 ≠
        told sample.store sampleConfig.output workspace (some newest) := by
  obtain ⟨run, again, third, workspace, hruns, hcourse, hsettings⟩ := exists_sampleCourse
  obtain ⟨entries, hchronicle, -, hcompare, -⟩ :=
    compare_course Audit.sample_ready hcourse hsettings rfl
  obtain ⟨others, newest, rfl, hothers, hnewest⟩ :=
    Chronicle.of_run (show Chronicle ([.run run, .run again, .deletion] ++ [_]) _ from hchronicle)
  have hboth : Chronicle ([.run run] ++ [.run again]) others :=
    Chronicle.of_deletion (show Chronicle ([.run run, .run again] ++ [_]) _ from hothers)
  obtain ⟨front, second, rfl, hfront, hrecorded⟩ := hboth.of_run
  obtain ⟨before, first, rfl, hbefore, hfirst⟩ :=
    Chronicle.of_run (show Chronicle ([] ++ [_]) _ from hfront)
  obtain rfl := hbefore.eq_nil
  obtain ⟨hcompared, hlegible⟩ := hruns.legible_second hrecorded
  have hnone : newest.comparison = none := hnewest.first rfl
  have hfound : (([first, second, newest].filter fun entry => entry.Legible).reverse.find?
      (·.comparison.isSome)) = some second := by
    by_cases hread : newest.Legible
    · simp [hruns.legible_first hfirst, hlegible, hread, hnone, hcompared]
    · simp [hruns.legible_first hfirst, hlegible, hread, hcompared]
  have hshown : (compare none sampleSource workspace).1 =
      told sample.store sampleConfig.output workspace (some second) := hfound ▸ hcompare
  refine ⟨run, again, third, workspace, hcourse, hsettings, first, second, newest, hchronicle,
    hcompared, hnone, hshown, ?_⟩
  rw [hshown, told_of_none _ _ _ hnone]
  exact told_ne_told_none _ _ _ hcompared

end CommandLine
end KotlinAudit
