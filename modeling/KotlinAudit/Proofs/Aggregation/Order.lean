import KotlinAudit.Proofs.Aggregation.Resolved
import KotlinAudit.Proofs.Aggregation.Views

/-! What the order of findings is good for. It decides which one of several equally severe findings of an
issue stays, and with it every text; the issues, their priorities, the counts and the test coverage do
not depend on it. -/
namespace KotlinAudit

namespace Finding

/-- What is left of a finding when all is taken away but its issue and its priority. -/
def outline (finding : Finding) : Finding :=
  { (default : Finding) with
    category := finding.category, priority := finding.priority, title := finding.title,
    file := finding.file, line := finding.line }

theorem outline_eq_iff {finding other : Finding} :
    finding.outline = other.outline ↔ finding.key = other.key ∧ finding.priority = other.priority := by
  simp only [outline, key, mk.injEq, Key.mk.injEq, true_and, and_true]
  tauto

end Finding

theorem Priority.rank_injective {priority other : Priority} :
    priority.rank = other.rank → priority = other := by
  cases priority <;> cases other <;> decide

namespace Repeats

variable {α : Type} [BEq α] [LawfulBEq α]

theorem perm_eraseDups {list other : List α} (h : list.Perm other) :
    list.eraseDups.Perm other.eraseDups :=
  (List.perm_ext_iff_of_nodup (nodup_eraseDups list) (nodup_eraseDups other)).2 fun element => by
    rw [List.mem_eraseDups, List.mem_eraseDups, h.mem_iff]

end Repeats

namespace Metrics

variable {findings others : List Finding}

/-- Metrics that are the same but for averages and the documentation coverage. -/
structure Resembles (metrics other : Metrics) : Prop where
  totalFiles : metrics.totalFiles = other.totalFiles
  totalFindings : metrics.totalFindings = other.totalFindings
  byPriority : metrics.byPriority = other.byPriority
  byCategory : metrics.byCategory = other.byCategory
  testCoverage : metrics.testCoverage = other.testCoverage

theorem length_files_perm (h : findings.Perm others) :
    (findings.map (·.file)).eraseDups.length = (others.map (·.file)).eraseDups.length :=
  (Repeats.perm_eraseDups (h.map _)).length_eq

theorem tally_perm {κ : Type} [BEq κ] (keys : List κ) (key : Finding → κ)
    (h : findings.Perm others) : tally keys key findings = tally keys key others :=
  List.map_congr_left fun each _ => by rw [h.countP_eq]

/-- The files that should have tests and those that lack them are the same in any order. -/
theorem estimatedTestCoverage_perm (h : findings.Perm others) :
    estimatedTestCoverage findings = estimatedTestCoverage others := by
  unfold estimatedTestCoverage
  have hmissing := h.filter (·.category == Category.testCoverage)
  have hcomponents := h.filter fun finding : Finding =>
    componentMarkers.any fun marker => Text.contains marker.toList finding.fileName
  dsimp only
  rw [length_files_perm (hmissing.append hcomponents), hmissing.length_eq]

/-- Only the outlines of findings matter for them. -/
theorem tally_outline {κ : Type} [BEq κ] (keys : List κ) {key : Finding → κ}
    (hkey : ∀ finding, key finding.outline = key finding) (findings : List Finding) :
    tally keys key (findings.map Finding.outline) = tally keys key findings := by
  refine List.map_congr_left fun each _ => ?_
  rw [List.countP_map]
  simp only [Function.comp_def, hkey]

theorem estimatedTestCoverage_outline (findings : List Finding) :
    estimatedTestCoverage (findings.map Finding.outline) = estimatedTestCoverage findings := by
  have hmissing : (findings.map Finding.outline).filter (·.category == .testCoverage) =
      (findings.filter (·.category == .testCoverage)).map Finding.outline := List.filter_map ..
  have hcomponents : ((findings.map Finding.outline).filter fun finding =>
        componentMarkers.any fun marker => Text.contains marker.toList finding.fileName) =
      (findings.filter fun finding => componentMarkers.any fun marker =>
        Text.contains marker.toList finding.fileName).map Finding.outline := List.filter_map ..
  unfold estimatedTestCoverage
  dsimp only
  rw [hmissing, hcomponents, ← List.map_append, List.map_map, List.length_map]
  rfl

/-- The counts and the test coverage are those of the outlines of the findings, in any order. -/
theorem resembles_of_perm {metrics other : Metrics}
    (h : (findings.map Finding.outline).Perm (others.map Finding.outline))
    (hmetrics : ofFindings findings = .ok metrics) (hother : ofFindings others = .ok other) :
    metrics.Resembles other := by
  obtain ⟨complexity, -, hmetrics⟩ := Outcome.bind_eq_ok.1 hmetrics
  obtain ⟨functionLength, -, hmetrics⟩ := Outcome.bind_eq_ok.1 hmetrics
  obtain ⟨classLength, -, hmetrics⟩ := Outcome.bind_eq_ok.1 hmetrics
  cases hmetrics
  obtain ⟨complexity', -, hother⟩ := Outcome.bind_eq_ok.1 hother
  obtain ⟨functionLength', -, hother⟩ := Outcome.bind_eq_ok.1 hother
  obtain ⟨classLength', -, hother⟩ := Outcome.bind_eq_ok.1 hother
  cases hother
  refine ⟨?_, ?_, ?_, ?_, ?_⟩
  · have hfiles := length_files_perm h
    rw [List.map_map, List.map_map] at hfiles
    exact congrArg Nat.cast hfiles
  · have hlength := h.length_eq
    rw [List.length_map, List.length_map] at hlength
    exact congrArg Nat.cast hlength
  · have hcounts := tally_perm Priority.all (·.priority) h
    rwa [tally_outline _ fun _ => rfl, tally_outline _ fun _ => rfl] at hcounts
  · have hcounts := tally_perm Category.all (·.category) h
    rwa [tally_outline _ fun _ => rfl, tally_outline _ fun _ => rfl] at hcounts
  · have hcoverage := estimatedTestCoverage_perm h
    rwa [estimatedTestCoverage_outline, estimatedTestCoverage_outline] at hcoverage

end Metrics

namespace Aggregate

variable {findings others : List Finding}

theorem keys_perm (h : findings.Perm others) : (keys findings).Perm (keys others) :=
  Repeats.perm_eraseDups (h.map _)

/-- In another order another one of the best elements can be the first, but it is no better. -/
theorem rank_argmax_perm {α : Type} (rank : α → Nat) {list other : List α} (h : list.Perm other) :
    (list.argmax rank).map rank = (other.argmax rank).map rank := by
  cases hlist : list.argmax rank with
  | none =>
    rw [List.argmax_eq_none] at hlist
    subst hlist
    rw [h.symm.eq_nil]
    rfl
  | some best =>
    cases hother : other.argmax rank with
    | none =>
      rw [List.argmax_eq_none] at hother
      subst hother
      rw [h.eq_nil] at hlist
      cases hlist
    | some found =>
      have hbest := List.le_of_mem_argmax (f := rank) (h.mem_iff.1 (List.argmax_mem hlist)) hother
      have hfound := List.le_of_mem_argmax (f := rank) (h.mem_iff.2 (List.argmax_mem hother)) hlist
      exact congrArg some (Nat.le_antisymm hbest hfound)

/-- What stays of an issue is as severe in any order. -/
theorem rank_resolved?_perm (h : findings.Perm others) (key : Finding.Key) :
    (resolved? findings key).map (·.priority.rank) =
      (resolved? others key).map (·.priority.rank) := by
  rw [resolved?, resolved?, Option.map_map, Option.map_map]
  exact rank_argmax_perm (·.raised.priority.rank) (h.filter (·.key = key))

theorem outline_resolved?_perm (h : findings.Perm others) (key : Finding.Key) :
    (resolved? findings key).map Finding.outline = (resolved? others key).map Finding.outline := by
  have hranks := rank_resolved?_perm h key
  cases hfirst : resolved? findings key with
  | none =>
    rw [hfirst, Option.map_none, eq_comm, Option.map_eq_none_iff] at hranks
    rw [hranks]
  | some finding =>
    rw [hfirst, Option.map_some, eq_comm] at hranks
    obtain ⟨found, hsecond, hrank⟩ := Option.map_eq_some_iff.1 hranks
    rw [hsecond, Option.map_some, Option.map_some, Option.some.injEq, Finding.outline_eq_iff]
    exact ⟨(key_of_resolved? hfirst).trans (key_of_resolved? hsecond).symm,
      (Priority.rank_injective hrank).symm⟩

theorem outline_resolved_perm (h : findings.Perm others) :
    ((resolved findings).map Finding.outline).Perm ((resolved others).map Finding.outline) := by
  rw [resolved, resolved, List.map_filterMap, List.map_filterMap,
    List.filterMap_congr fun key _ => outline_resolved?_perm h key]
  exact (keys_perm h).filterMap _

/-- Two outcomes with the same issues, each with the same priority, and with metrics that resemble. -/
structure Resembles (aggregate other : Aggregate) : Prop where
  keys : ∀ key, key ∈ aggregate.findings.map Finding.key ↔ key ∈ other.findings.map Finding.key
  priority : ∀ finding ∈ aggregate.findings, ∀ found ∈ other.findings, finding.key = found.key →
    finding.priority = found.priority
  metrics : aggregate.metrics.Resembles other.metrics

/-- Findings with the same outlines have the same issues, each with the same priority. -/
theorem resembles_of_outlines {aggregate other : Aggregate}
    (haggregate : ofFindings findings = .ok aggregate) (hother : ofFindings others = .ok other)
    (h : ((resolved findings).map Finding.outline).Perm ((resolved others).map Finding.outline)) :
    aggregate.Resembles other := by
  have hnodup := nodup_keys_ofFindings haggregate
  obtain ⟨metrics, hmetrics, rfl⟩ := ofFindings_eq_ok.1 haggregate
  obtain ⟨metrics', hmetrics', rfl⟩ := ofFindings_eq_ok.1 hother
  refine ⟨fun key => ?_, ?_, Metrics.resembles_of_perm h hmetrics hmetrics'⟩
  · have hkeys := (h.map Finding.key).mem_iff (a := key)
    rwa [List.map_map, List.map_map] at hkeys
  · intro finding hfinding found hfound hkey
    obtain ⟨twin, htwin, houtline⟩ := List.mem_map.1 (h.mem_iff.2 (List.mem_map_of_mem hfound))
    obtain ⟨hsame, hpriority⟩ := Finding.outline_eq_iff.1 houtline
    -- no other result has the issue
    rw [List.inj_on_of_nodup_map hnodup hfinding htwin (hkey.trans hsame.symm)]
    exact hpriority

/-- In two orders the same findings are put together to the same issues, with the same priorities,
counts and test coverage, exactly if in each order the numbers can be averaged in the texts of the
findings that stay. -/
theorem reordered_ofFindings (h : findings.Perm others) :
    ((∃ aggregate other, ofFindings findings = .ok aggregate ∧ ofFindings others = .ok other ∧
        aggregate.Resembles other) ↔
      Metrics.Measurable (resolved findings) ∧ Metrics.Measurable (resolved others)) ∧
    ∀ aggregate other, ofFindings findings = .ok aggregate → ofFindings others = .ok other →
      aggregate.Resembles other := by
  have hresembles : ∀ aggregate other, ofFindings findings = .ok aggregate →
      ofFindings others = .ok other → aggregate.Resembles other :=
    fun aggregate other haggregate hother =>
      resembles_of_outlines haggregate hother (outline_resolved_perm h)
  refine ⟨⟨?_, ?_⟩, hresembles⟩
  · rintro ⟨aggregate, other, haggregate, hother, -⟩
    exact ⟨exists_ofFindings_iff.1 ⟨aggregate, haggregate⟩, exists_ofFindings_iff.1 ⟨other, hother⟩⟩
  · rintro ⟨hfindings, hothers⟩
    obtain ⟨aggregate, haggregate⟩ := exists_ofFindings_iff.2 hfindings
    obtain ⟨other, hother⟩ := exists_ofFindings_iff.2 hothers
    exact ⟨aggregate, other, haggregate, hother, hresembles _ _ haggregate hother⟩

/-- The mild finding of an issue and its severe twin change places: another one of them stays, with the
same priority. With a number of 310 digits in the text of one of two such twins it is the order that
decides whether there is an outcome at all. -/
theorem reordered_ofFindings_mild :
    (∃ aggregate other, ofFindings [mild, beside, severe] = .ok aggregate ∧
      ofFindings [severe, beside, mild] = .ok other ∧ aggregate.Resembles other ∧
      aggregate.findings = [{ mild with priority := .critical }, beside] ∧
      other.findings = [severe, beside]) ∧
    ((stated ['7']).key = (stated overlong).key ∧
      (∃ aggregate, ofFindings [stated ['7'], stated overlong] = .ok aggregate) ∧
      ofFindings [stated overlong, stated ['7']] = .error .tooLarge) := by
  have hperm : [mild, beside, severe].Perm [severe, beside, mild] := by decide
  have hmeasurable : Metrics.Measurable (resolved [mild, beside, severe]) ∧
      Metrics.Measurable (resolved [severe, beside, mild]) := by
    refine ⟨⟨?_, ?_, ?_⟩, ⟨?_, ?_, ?_⟩⟩ <;> exact ⟨by decide, by decide⟩
  obtain ⟨aggregate, other, haggregate, hother, hresembles⟩ :=
    (reordered_ofFindings hperm).1.2 hmeasurable
  refine ⟨⟨aggregate, other, haggregate, hother,
    (reordered_ofFindings hperm).2 _ _ haggregate hother, ?_, ?_⟩, by simp [Finding.key, stated],
    ?_, ?_⟩
  · rw [findings_of_ofFindings haggregate]
    decide
  · rw [findings_of_ofFindings hother]
    decide
  · rw [← Outcome.failure?_eq_none_iff, failure?_ofFindings]
    decide +kernel
  · have hfault : Metrics.fault? [overlong] = some .tooLarge := by decide +kernel
    have hresolved : resolved [stated overlong, stated ['7']] = resolved [stated overlong] := by
      rfl
    rw [← Outcome.failure?_eq_some_iff, failure?_ofFindings, hresolved, Metrics.faultIn?,
      scraped_overlong, hfault]
    rfl

end Aggregate
end KotlinAudit
