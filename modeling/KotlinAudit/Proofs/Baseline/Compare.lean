import KotlinAudit.Baseline.Compare
import KotlinAudit.Proofs.Baseline.Stored
import KotlinAudit.Proofs.Text.Scan

/-! Comparisons as they are made: every metric changes at most once, and nothing changes where metrics
and findings are the same. -/
namespace KotlinAudit

open Decimal (Binary64)

namespace Change

/-- A change by a number that rounding can give. -/
def Normal : Change → Prop
  | improved value | regressed value => value.Normal
  | none => True

theorem normal_ofCounts {before after : Int} {change : Change}
    (h : ofCounts before after = .ok change) : change.Normal := by
  have hcount : ∀ {value}, countChange before after = .ok value → value.Normal := by
    intro value hvalue
    unfold countChange at hvalue
    dsimp only at hvalue
    split at hvalue
    · cases hvalue
      exact Binary64.normal_mul _ _
    · cases hvalue
  unfold ofCounts at h
  split_ifs at h
  · obtain ⟨value, hvalue, h⟩ := Outcome.bind_eq_ok.1 h
    cases h
    exact hcount hvalue
  · obtain ⟨value, hvalue, h⟩ := Outcome.bind_eq_ok.1 h
    cases h
    exact hcount hvalue
  · cases h
    trivial

theorem normal_ofAverages (before after : Binary64) : (ofAverages before after).Normal := by
  unfold ofAverages
  split_ifs
  · exact Binary64.normal_mul _ _
  · exact Binary64.normal_mul _ _
  · trivial

theorem normal_ofCoverages (before after : Binary64) : (ofCoverages before after).Normal := by
  unfold ofCoverages
  split_ifs
  · exact Binary64.normal_sub _ _
  · exact Binary64.normal_sub _ _
  · trivial

theorem ofCounts_self (count : Int) : ofCounts count count = .ok none := by
  rw [ofCounts, if_neg (lt_irrefl count), if_neg (lt_irrefl count)]
  rfl

theorem ofAverages_self (value : Binary64) : ofAverages value value = none := by
  simp only [ofAverages, Binary64.lt_self, Bool.false_eq_true, if_false]

theorem ofCoverages_self (value : Binary64) : ofCoverages value value = none := by
  simp only [ofCoverages, Binary64.lt_self, Bool.false_eq_true, if_false]

theorem normal_of_improvement? {change : Change} (h : change.Normal) {value : Binary64}
    (hvalue : change.improvement? = some value) : value.Normal := by
  cases change with
  | improved => exact Option.some.inj hvalue ▸ h
  | regressed => cases hvalue
  | none => cases hvalue

theorem normal_of_regression? {change : Change} (h : change.Normal) {value : Binary64}
    (hvalue : change.regression? = some value) : value.Normal := by
  cases change with
  | improved => cases hvalue
  | regressed => exact Option.some.inj hvalue ▸ h
  | none => cases hvalue

end Change

namespace Metrics

/-- The names of all changes in their order. -/
def changeNames : List String :=
  Priority.all.map (fun priority => priority.name ++ "_issues") ++
    ["average_complexity", "average_function_length", "average_class_length", "test_coverage",
      "documentation_coverage"]

theorem countChanges_spec {current before : Metrics} {priorities : List Priority}
    {counts : List (String × Change)}
    (h : priorities.mapM (fun priority => do
      let change ← Change.ofCounts (before.byPriority.get priority) (current.byPriority.get priority)
      return (priority.name ++ "_issues", change)) = .ok counts) :
    counts.map Prod.fst = priorities.map (fun priority => priority.name ++ "_issues") ∧
      ∀ change ∈ counts, change.2.Normal := by
  induction priorities generalizing counts with
  | nil =>
    cases h
    exact ⟨rfl, nofun⟩
  | cons priority rest ih =>
    rw [List.mapM_cons] at h
    obtain ⟨first, hfirst, h⟩ := Outcome.bind_eq_ok.1 h
    obtain ⟨others, hothers, h⟩ := Outcome.bind_eq_ok.1 h
    cases h
    obtain ⟨change, hchange, hfirst⟩ := Outcome.bind_eq_ok.1 hfirst
    cases hfirst
    obtain ⟨hnames, hnormal⟩ := ih hothers
    rw [List.map_cons, hnames, List.map_cons, List.forall_mem_cons]
    exact ⟨rfl, Change.normal_ofCounts hchange, hnormal⟩

theorem changes_spec {current before : Metrics} {changes : List (String × Change)}
    (h : current.changes before = .ok changes) :
    changes.map Prod.fst = changeNames ∧ ∀ change ∈ changes, change.2.Normal := by
  obtain ⟨counts, hcounts, h⟩ := Outcome.bind_eq_ok.1 h
  cases h
  obtain ⟨hnames, hnormal⟩ := countChanges_spec hcounts
  refine ⟨?_, ?_⟩
  · rw [List.map_append, hnames]
    rfl
  · rw [List.forall_mem_append]
    refine ⟨hnormal, ?_⟩
    simp only [List.forall_mem_cons]
    exact ⟨Change.normal_ofAverages _ _, Change.normal_ofAverages _ _, Change.normal_ofAverages _ _,
      Change.normal_ofCoverages _ _, Change.normal_ofCoverages _ _, nofun⟩

/-- Metrics can be compared if the counts of each priority can. -/
theorem exists_changes_iff {current before : Metrics} :
    (∃ changes, current.changes before = .ok changes) ↔
      ∀ priority, ∃ change, Change.ofCounts (before.byPriority.get priority)
        (current.byPriority.get priority) = .ok change := by
  constructor
  · rintro ⟨changes, hchanges⟩ priority
    obtain ⟨counts, hcounts, -⟩ := Outcome.bind_eq_ok.1 hchanges
    have hmem : priority ∈ Priority.all := by cases priority <;> decide
    obtain ⟨named, hnamed⟩ := Outcome.exists_of_mapM hcounts priority hmem
    obtain ⟨change, hchange, -⟩ := Outcome.bind_eq_ok.1 hnamed
    exact ⟨change, hchange⟩
  · intro h
    choose change hchange using h
    have hcounts : (Priority.all.mapM fun priority => (do
        let change ← Change.ofCounts (before.byPriority.get priority) (current.byPriority.get priority)
        return (priority.name ++ "_issues", change) : Except ChangeError (String × Change))) =
        .ok (Priority.all.map fun priority => (priority.name ++ "_issues", change priority)) :=
      Outcome.mapM_of_forall fun priority _ =>
        Outcome.bind_eq_ok.2 ⟨change priority, hchange priority, rfl⟩
    exact ⟨_, Outcome.bind_eq_ok.2 ⟨_, hcounts, rfl⟩⟩

/-- Nothing has changed between equal metrics. -/
theorem changes_self (metrics : Metrics) :
    metrics.changes metrics = .ok (changeNames.map fun name => (name, .none)) := by
  unfold Metrics.changes
  simp only [Change.ofCounts_self, Change.ofAverages_self, Change.ofCoverages_self]
  rfl

end Metrics

/-! ### Picked changes -/

/-- Changes of one kind, by the names of their metrics. -/
theorem picked_spec (changes : List (String × Change)) (pick : Change → Option Binary64) :
    ((changes.filterMap fun (name, change) => (pick change).map (name, ·)).map Prod.fst).Sublist
        (changes.map Prod.fst) ∧
      ∀ picked ∈ changes.filterMap fun (name, change) => (pick change).map (name, ·),
        ∃ change ∈ changes, change.1 = picked.1 ∧ pick change.2 = some picked.2 := by
  constructor
  · induction changes with
    | nil => exact .slnil
    | cons change rest ih =>
      cases hpick : pick change.2 with
      | none =>
        rw [List.filterMap_cons_none (by simp [hpick])]
        exact ih.cons _
      | some value =>
        rw [List.filterMap_cons_some (b := (change.1, value)) (by simp [hpick])]
        exact ih.cons_cons _
  · intro picked hpicked
    obtain ⟨change, hchange, heq⟩ := List.mem_filterMap.1 hpicked
    obtain ⟨value, hvalue, rfl⟩ := Option.map_eq_some_iff.1 heq
    exact ⟨change, hchange, rfl, hvalue⟩

namespace Baseline

theorem compare_eq_ok {baseline : Baseline} {current : Metrics} {ids : List String}
    {comparison : Comparison} (h : baseline.compare current (some ids) = .ok comparison) :
    ∃ changes, current.changes baseline.metrics = .ok changes ∧ comparison =
      ⟨changes.filterMap fun (name, change) => change.improvement?.map (name, ·),
        changes.filterMap fun (name, change) => change.regression?.map (name, ·),
        baseline.findingIds.filter (!(Text.sortedSet ids).contains ·),
        (Text.sortedSet ids).filter (!baseline.findingIds.contains ·)⟩ := by
  obtain ⟨changes, hchanges, h⟩ := Outcome.bind_eq_ok.1 h
  cases h
  exact ⟨changes, hchanges, rfl⟩

theorem exists_compare_iff {baseline : Baseline} {metrics : Metrics} {ids : List String} :
    (∃ comparison, baseline.compare metrics (some ids) = .ok comparison) ↔
      ∃ changes, metrics.changes baseline.metrics = .ok changes := by
  constructor
  · rintro ⟨comparison, hcomparison⟩
    obtain ⟨changes, hchanges, -⟩ := Outcome.bind_eq_ok.1 hcomparison
    exact ⟨changes, hchanges⟩
  · rintro ⟨changes, hchanges⟩
    exact ⟨_, Outcome.bind_eq_ok.2 ⟨changes, hchanges, rfl⟩⟩

theorem name_mem_of_compare {baseline : Baseline} {current : Metrics} {ids : List String}
    {comparison : Comparison} (h : baseline.compare current (some ids) = .ok comparison) :
    ∀ change ∈ comparison.changes, change.1 ∈ Metrics.changeNames := by
  obtain ⟨changes, hchanges, rfl⟩ := compare_eq_ok h
  have hnames := (Metrics.changes_spec hchanges).1
  have hpicked : ∀ pick : Change → Option Binary64,
      ∀ picked ∈ changes.filterMap fun (name, change) => (pick change).map (name, ·),
        picked.1 ∈ Metrics.changeNames := by
    intro pick picked hmem
    obtain ⟨change, hchange, hname, -⟩ := (picked_spec changes pick).2 picked hmem
    exact hname ▸ hnames ▸ List.mem_map_of_mem hchange
  rw [Comparison.changes, List.forall_mem_append]
  exact ⟨hpicked Change.improvement?, hpicked Change.regression?⟩

/-- A comparison names metrics, none of them twice, and gives rounded numbers. -/
theorem formed_of_compare {baseline : Baseline} {current : Metrics} {ids : List String}
    {comparison : Comparison} (h : baseline.compare current (some ids) = .ok comparison) :
    comparison.Formed := by
  have hunbroken : ∀ name ∈ Metrics.changeNames, Text.Unbroken name.toList := by decide
  have hline := fun change hchange => hunbroken _ (name_mem_of_compare h change hchange)
  obtain ⟨changes, hchanges, rfl⟩ := compare_eq_ok h
  obtain ⟨hnames, hnormal⟩ := Metrics.changes_spec hchanges
  have hnodup : (changes.map Prod.fst).Nodup := by
    rw [hnames]
    decide
  obtain ⟨himproved, himprovement⟩ := picked_spec changes Change.improvement?
  obtain ⟨hregressed, hregression⟩ := picked_spec changes Change.regression?
  refine ⟨hnodup.sublist himproved, hnodup.sublist hregressed, ?_, hline⟩
  rw [Comparison.changes, List.forall_mem_append]
  constructor
  · intro picked hpicked
    obtain ⟨change, hchange, -, hvalue⟩ := himprovement picked hpicked
    exact Change.normal_of_improvement? (hnormal change hchange) hvalue
  · intro picked hpicked
    obtain ⟨change, hchange, -, hvalue⟩ := hregression picked hpicked
    exact Change.normal_of_regression? (hnormal change hchange) hvalue

/-- The identifiers of a comparison are among those that are compared. -/
theorem mem_ids_of_compare {baseline : Baseline} {current : Metrics} {ids : List String}
    {comparison : Comparison} (h : baseline.compare current (some ids) = .ok comparison) :
    ∀ id ∈ comparison.ids, id ∈ baseline.findingIds ∨ id ∈ ids := by
  obtain ⟨changes, -, rfl⟩ := compare_eq_ok h
  rw [Comparison.ids, List.forall_mem_append]
  constructor
  · exact fun id hid => .inl (List.mem_filter.1 hid).1
  · exact fun id hid => .inr (Text.mem_sortedSet.1 (List.mem_filter.1 hid).1)

/-- A comparison is regular where no identifier breaks lines. -/
theorem regular_of_compare {baseline : Baseline} {current : Metrics} {ids : List String}
    {comparison : Comparison} (h : baseline.compare current (some ids) = .ok comparison)
    (hbaseline : ∀ id ∈ baseline.findingIds, Text.Unbroken id.toList)
    (hids : ∀ id ∈ ids, Text.Unbroken id.toList) : comparison.Regular := by
  have hformed := formed_of_compare h
  exact ⟨hformed.improved, hformed.regressed, hformed.numbers, hformed.names,
    fun id hid => (mem_ids_of_compare h id hid).elim (hbaseline id) (hids id)⟩

/-- A run compared with its own baseline has not changed. -/
theorem compare_ofFindings (timestamp : Int) (metrics : Metrics) (findings : List Finding) :
    (ofFindings timestamp metrics findings).compare metrics (some (findings.map (·.id))) =
      .ok .empty := by
  have hnone : (Text.sortedSet (findings.map (·.id))).filter
      (!(Text.sortedSet (findings.map (·.id))).contains ·) = [] := by
    rw [List.filter_eq_nil_iff]
    intro id hid
    rw [List.contains_iff_mem.2 hid]
    decide
  unfold compare ofFindings
  dsimp only
  rw [Metrics.changes_self]
  simp only [hnone, Comparison.empty]
  rfl

theorem regular_ofFindings (timestamp : Int) {metrics : Metrics} (h : metrics.Regular)
    (findings : List Finding) : (ofFindings timestamp metrics findings).Regular :=
  ⟨h, Text.sortedSet_sortedSet _⟩

end Baseline
end KotlinAudit
