import KotlinAudit.Proofs.Aggregation.Resolved
import KotlinAudit.Proofs.Keyed
import KotlinAudit.Proofs.Metrics.Regular
import Mathlib.Algebra.BigOperators.Ring.Finset

/-! Putting findings together, in two chunks or at once, and the views of an aggregate: its findings by
category, by priority and by file, and the counts of its metrics. What a chunk is reduced to stands for
the chunk: of an issue that is in both of them, the representative of the first chunk stays at its place
unless that of the second one is more severe, and that is the one that stays when all findings are taken
at once. -/
namespace KotlinAudit

theorem Repeats.eraseDups_append_eraseDups {α : Type} [BEq α] [LawfulBEq α] (first second : List α) :
    (first.eraseDups ++ second.eraseDups).eraseDups = (first ++ second).eraseDups := by
  have hfirst : first.eraseDups.eraseDups = first.eraseDups :=
    eraseDups_of_nodup (nodup_eraseDups first)
  have hsecond : second.eraseDups.removeAll first.eraseDups =
      (second.removeAll first).eraseDups := by
    rw [List.removeAll, List.removeAll, eraseDups_filter]
    refine List.filter_congr fun element _ => ?_
    simp
  rw [List.eraseDups_append, List.eraseDups_append, hfirst, hsecond,
    eraseDups_of_nodup (nodup_eraseDups _)]

namespace Aggregate

variable {first second : List Finding}

/-- The best element of two lists is the best one of the first list, unless the second list has a
better one. -/
theorem argmax_append {α : Type} (rank : α → Nat) (list more : List α) :
    (list ++ more).argmax rank = Option.merge
      (fun best other => if rank best < rank other then other else best)
      (list.argmax rank) (more.argmax rank) := by
  induction more using List.reverseRecOn with
  | nil => cases h : list.argmax rank <;> simp [h]
  | append_singleton more last ih =>
    rw [← List.append_assoc, List.argmax_concat, ih, List.argmax_concat]
    cases list.argmax rank with
    | none => cases more.argmax rank <;> simp
    | some best =>
      cases more.argmax rank with
      | none =>
        by_cases h : rank best < rank last
        · simp [h]
        · simp [h]
      | some other =>
        by_cases hother : rank best < rank other
        · by_cases hlast : rank other < rank last
          · have hbest : rank best < rank last := by omega
            simp [hother, hlast, hbest]
          · simp [hother, hlast]
        · by_cases hlast : rank other < rank last
          · by_cases hbest : rank best < rank last
            · simp [hother, hlast, hbest]
            · simp [hother, hlast, hbest]
          · have hbest : ¬ rank best < rank last := by omega
            simp [hother, hlast, hbest]

/-- What stays of an issue when findings come after others. -/
theorem resolved?_append (first second : List Finding) (key : Finding.Key) :
    resolved? (first ++ second) key =
      Option.merge stronger (resolved? first key) (resolved? second key) := by
  have hgroup : ofKey key (first ++ second) = ofKey key first ++ ofKey key second := by
    rw [ofKey, ofKey, ofKey, List.filter_append]
  rw [resolved?, resolved?, resolved?, hgroup, argmax_append]
  cases (ofKey key first).argmax (·.raised.priority.rank) with
  | none => simp
  | some best =>
    cases (ofKey key second).argmax (·.raised.priority.rank) with
    | none => simp
    | some other =>
      simp only [Option.merge_some_some, Option.map_some, stronger, Priority.moreSevere,
        decide_eq_true_eq]
      split_ifs <;> rfl

theorem resolved?_of_not_mem {findings : List Finding} {key : Finding.Key}
    (h : key ∉ keys findings) : resolved? findings key = none := by
  have hgroup : ofKey key findings = [] := by
    rw [ofKey, List.filter_eq_nil_iff]
    intro finding hfinding hkey
    exact h (mem_keys.2 ⟨finding, hfinding, of_decide_eq_true hkey⟩)
  rw [resolved?, hgroup]
  rfl

/-- The resolved findings of one issue are its resolved finding, if there is the issue. -/
theorem ofKey_resolved (findings : List Finding) (key : Finding.Key) :
    ofKey key (resolved findings) = (resolved? findings key).toList := by
  have hgroup (list : List Finding) : ofKey key list = list.filter (·.key == key) :=
    List.filter_congr fun finding _ => rfl
  have hkept : resolved? (ofKey key findings) key = resolved? findings key := by
    have hagain : ofKey key (ofKey key findings) = ofKey key findings := by
      simp only [ofKey, List.filter_filter, Bool.and_self]
    rw [resolved?, hagain, ← resolved?]
  -- the issue is the only one of the findings left, so the cut findings are resolved to one
  have hcut : ofKey key (resolved findings) =
      (List.replicate ((keys findings).count key) key).filterMap
        (resolved? (ofKey key findings)) := by
    rw [hgroup (resolved findings), ← resolved_filter (· == key), ← hgroup, resolved, hgroup,
      keys_filter (· == key), List.filter_beq]
  by_cases h : key ∈ keys findings
  · rw [hcut, List.count_eq_one_of_mem (nodup_keys findings) h, ← hkept]
    cases hfound : resolved? (ofKey key findings) key with
    | none => simp [hfound]
    | some result => simp [hfound]
  · rw [hcut, List.count_eq_zero_of_not_mem h, resolved?_of_not_mem h]
    rfl

/-- Resolving a second time changes no issue. -/
theorem resolved?_resolved (findings : List Finding) :
    resolved? (resolved findings) = resolved? findings := by
  funext key
  rw [resolved?, ofKey_resolved]
  cases h : resolved? findings key with
  | none => rfl
  | some result =>
    obtain ⟨finding, -, rfl⟩ := Option.map_eq_some_iff.1 h
    simp [Finding.raised_raised]

theorem keys_resolved_append (first second : List Finding) :
    keys (resolved first ++ resolved second) = keys (first ++ second) := by
  rw [keys, List.map_append, map_key_resolved, map_key_resolved, keys, keys,
    Repeats.eraseDups_append_eraseDups, keys, List.map_append]

/-- Of two chunks it is enough to keep the resolved findings. -/
theorem resolved_append_resolved (first second : List Finding) :
    resolved (resolved first ++ resolved second) = resolved (first ++ second) := by
  have hkept : ∀ key, resolved? (resolved first ++ resolved second) key =
      resolved? (first ++ second) key := by
    intro key
    rw [resolved?_append, resolved?_append, resolved?_resolved, resolved?_resolved]
  calc resolved (resolved first ++ resolved second)
    _ = (keys (first ++ second)).filterMap (resolved? (resolved first ++ resolved second)) := by
      rw [resolved, keys_resolved_append]
    _ = resolved (first ++ second) := List.filterMap_congr fun key _ => hkept key

theorem resolved_resolved (findings : List Finding) :
    resolved (resolved findings) = resolved findings := by
  simpa [resolved, keys] using resolved_append_resolved findings []

/-- What is put together depends on the resolved findings alone. -/
theorem ofFindings_congr {findings others : List Finding} (h : resolved findings = resolved others) :
    ofFindings findings = ofFindings others := by
  unfold ofFindings
  rw [withoutDuplicates_map_raised, withoutDuplicates_map_raised, h]

theorem findings_of_ofFindings {findings : List Finding} {aggregate : Aggregate}
    (h : ofFindings findings = .ok aggregate) : aggregate.findings = resolved findings := by
  obtain ⟨metrics, -, rfl⟩ := ofFindings_eq_ok.1 h
  rfl

theorem exists_ofFindings_iff {findings : List Finding} :
    (∃ aggregate, ofFindings findings = .ok aggregate) ↔ Metrics.Measurable (resolved findings) := by
  rw [← Metrics.exists_ofFindings_iff]
  constructor
  · rintro ⟨aggregate, h⟩
    obtain ⟨metrics, hmetrics, -⟩ := ofFindings_eq_ok.1 h
    exact ⟨metrics, hmetrics⟩
  · rintro ⟨metrics, hmetrics⟩
    exact ⟨_, ofFindings_eq_ok.2 ⟨metrics, hmetrics, rfl⟩⟩

/-- Two chunks put together one by one, and then what they gave. -/
def ofChunks (first second : List Finding) : Except MetricsError Aggregate := do
  let left ← ofFindings first
  let right ← ofFindings second
  ofFindings (left.findings ++ right.findings)

/-- Chunks that are put together one by one give what all their findings give at once, failures
included. The one thing a chunk adds is that the numbers in its own texts have to be ones that can be
averaged: these may stand in a finding that the other chunk's one replaces. -/
theorem ofChunks_spec (first second : List Finding) :
    (∀ left right, ofFindings first = .ok left → ofFindings second = .ok right →
      ofFindings (left.findings ++ right.findings) = ofFindings (first ++ second)) ∧
    (∀ aggregate, ofChunks first second = .ok aggregate ↔
      Metrics.Measurable (resolved first) ∧ Metrics.Measurable (resolved second) ∧
        ofFindings (first ++ second) = .ok aggregate) ∧
    ∀ aggregate, ofFindings first = .ok aggregate →
      ofFindings aggregate.findings = .ok aggregate := by
  have hwhole : ∀ left right, ofFindings first = .ok left → ofFindings second = .ok right →
      ofFindings (left.findings ++ right.findings) = ofFindings (first ++ second) := by
    intro left right hleft hright
    apply ofFindings_congr
    rw [findings_of_ofFindings hleft, findings_of_ofFindings hright, resolved_append_resolved]
  refine ⟨hwhole, fun aggregate => ⟨fun h => ?_, ?_⟩, fun aggregate h => ?_⟩
  · obtain ⟨left, hleft, h⟩ := Outcome.bind_eq_ok.1 h
    obtain ⟨right, hright, h⟩ := Outcome.bind_eq_ok.1 h
    rw [hwhole left right hleft hright] at h
    exact ⟨exists_ofFindings_iff.1 ⟨left, hleft⟩, exists_ofFindings_iff.1 ⟨right, hright⟩, h⟩
  · rintro ⟨hfirst, hsecond, h⟩
    obtain ⟨left, hleft⟩ := exists_ofFindings_iff.2 hfirst
    obtain ⟨right, hright⟩ := exists_ofFindings_iff.2 hsecond
    rw [← hwhole left right hleft hright] at h
    exact Outcome.bind_eq_ok.2 ⟨left, hleft, Outcome.bind_eq_ok.2 ⟨right, hright, h⟩⟩
  · have hsame : resolved aggregate.findings = resolved first := by
      rw [findings_of_ofFindings h, resolved_resolved]
    rw [ofFindings_congr hsame, h]

/-- The mild finding of the first chunk stays at its place and is raised there, since the same issue in
the second chunk is no more severe than that. -/
theorem ofChunks_spec_mild : ∃ left right whole,
    ofFindings [mild] = .ok left ∧ ofFindings [beside, severe] = .ok right ∧
    ofFindings (left.findings ++ right.findings) = .ok whole ∧
    ofChunks [mild] [beside, severe] = .ok whole ∧ ofFindings whole.findings = .ok whole ∧
    whole.findings = [{ mild with priority := .critical }, beside] := by
  have hmeasurable : Metrics.Measurable (resolved [mild]) ∧
      Metrics.Measurable (resolved [beside, severe]) ∧
      Metrics.Measurable (resolved ([mild] ++ [beside, severe])) := by
    refine ⟨⟨?_, ?_, ?_⟩, ⟨?_, ?_, ?_⟩, ⟨?_, ?_, ?_⟩⟩ <;> exact ⟨by decide, by decide⟩
  obtain ⟨left, hleft⟩ := exists_ofFindings_iff.2 hmeasurable.1
  obtain ⟨right, hright⟩ := exists_ofFindings_iff.2 hmeasurable.2.1
  obtain ⟨whole, hwhole⟩ := exists_ofFindings_iff.2 hmeasurable.2.2
  obtain ⟨happend, hchunks, -⟩ := ofChunks_spec [mild] [beside, severe]
  obtain ⟨-, -, hagain⟩ := ofChunks_spec ([mild] ++ [beside, severe]) []
  refine ⟨left, right, whole, hleft, hright, ?_, ?_, hagain whole hwhole, ?_⟩
  · rw [happend left right hleft hright, hwhole]
  · exact (hchunks whole).2 ⟨hmeasurable.1, hmeasurable.2.1, hwhole⟩
  · rw [findings_of_ofFindings hwhole]
    decide

end Aggregate

/-! ### Views

Each view is made in a pass of its own, and all of them tell the same of the findings. -/

namespace Groups

variable {κ : Type} [BEq κ] {groups : Groups κ} {each : κ}

/-- The findings under a key, none where it has no group. -/
def under (groups : Groups κ) (each : κ) : List Finding := (groups.lookup each).getD []

/-- An index of some findings: its keys are in order of first appearance, no group is empty, and under
a key are the findings that have it in their order. -/
structure Indexes (groups : Groups κ) (key : Finding → κ) (findings : List Finding) : Prop where
  keys : groups.map Prod.fst = (findings.map key).eraseDups
  filled : ∀ entry ∈ groups, entry.2 ≠ []
  group : ∀ each, groups.under each = findings.filter (key · == each)

/-- Each key that appears among some findings, with the findings that have it. -/
def index (key : Finding → κ) (findings : List Finding) : Groups κ :=
  (findings.map key).eraseDups.map fun each => (each, findings.filter (key · == each))

theorem map_fst_index (key : Finding → κ) (findings : List Finding) :
    (index key findings).map Prod.fst = (findings.map key).eraseDups := by
  rw [index, List.map_map]
  exact List.map_id _

variable [LawfulBEq κ]

/-- The first finding with a key opens a group at the end. -/
theorem add_of_new (h : each ∉ groups.map Prod.fst) (finding : Finding) :
    groups.add each finding = groups ++ [(each, [finding])] := by
  induction groups with
  | nil => rfl
  | cons entry rest ih =>
    rw [List.map_cons, List.mem_cons, not_or] at h
    rw [add, if_neg (by simpa using Ne.symm h.1), ih h.2, List.cons_append]

/-- A finding with a known key comes at the end of that key's group. -/
theorem add_of_known (hn : (groups.map Prod.fst).Nodup) (h : each ∈ groups.map Prod.fst)
    (finding : Finding) : groups.add each finding = groups.map fun entry =>
      if entry.1 == each then (entry.1, entry.2 ++ [finding]) else entry := by
  induction groups with
  | nil => cases h
  | cons entry rest ih =>
    rw [List.map_cons, List.nodup_cons] at hn
    by_cases hkey : entry.1 = each
    · -- no later group has the key
      have hrest : ∀ later ∈ rest, ¬(later.1 == each) = true := fun later hlater heq =>
        hn.1 (hkey ▸ eq_of_beq heq ▸ List.mem_map_of_mem hlater)
      rw [add, if_pos (by simpa using hkey), List.map_cons, if_pos (by simpa using hkey),
        List.map_congr_left fun later hlater => if_neg (hrest later hlater), List.map_id']
    · have hmem : each ∈ rest.map Prod.fst := by
        simpa [Ne.symm hkey] using h
      rw [add, if_neg (by simpa using hkey), List.map_cons, if_neg (by simpa using hkey),
        ih hn.2 hmem]

variable {key : Finding → κ} {findings : List Finding} {finding : Finding}

theorem index_append_of_known (h : key finding ∈ findings.map key) :
    index key (findings ++ [finding]) = (index key findings).map fun entry =>
      if entry.1 == key finding then (entry.1, entry.2 ++ [finding]) else entry := by
  rw [index, List.map_append, List.map_singleton, Repeats.eraseDups_concat_of_mem h, index,
    List.map_map]
  refine List.map_congr_left fun each _ => ?_
  rw [Function.comp_apply, List.filter_append]
  by_cases heach : each = key finding
  · simp [heach]
  · simp [heach, Ne.symm heach]

theorem index_append_of_new (h : key finding ∉ findings.map key) :
    index key (findings ++ [finding]) = index key findings ++ [(key finding, [finding])] := by
  have hold : ∀ each ∈ (findings.map key).eraseDups,
      (findings ++ [finding]).filter (key · == each) = findings.filter (key · == each) := by
    intro each heach
    have hne : key finding ≠ each := fun heq => h (heq ▸ List.mem_eraseDups.1 heach)
    rw [List.filter_append, List.filter_cons_of_neg (by simpa using hne), List.filter_nil,
      List.append_nil]
  have hempty : findings.filter (key · == key finding) = [] := by
    rw [List.filter_eq_nil_iff]
    exact fun other hother heq => h (eq_of_beq heq ▸ List.mem_map_of_mem hother)
  have hnew : (findings ++ [finding]).filter (key · == key finding) = [finding] := by
    rw [List.filter_append, hempty]
    simp
  rw [index, List.map_append, List.map_singleton, Repeats.eraseDups_concat_of_notMem h,
    List.map_append, List.map_congr_left fun each heach => by rw [hold each heach], index,
    List.map_singleton, hnew]

/-- The pass over all findings makes their index. -/
theorem ofFindings_eq_index (key : Finding → κ) (findings : List Finding) :
    ofFindings key findings = index key findings := by
  induction findings using List.reverseRecOn with
  | nil => rfl
  | append_singleton findings finding ih =>
    have hstep : ofFindings key (findings ++ [finding]) =
        (index key findings).add (key finding) finding := by
      rw [← ih, ofFindings, List.foldl_append]
      rfl
    by_cases hknown : key finding ∈ findings.map key
    · rw [hstep, index_append_of_known hknown, add_of_known]
      · rw [map_fst_index]
        exact Repeats.nodup_eraseDups _
      · rw [map_fst_index]
        exact List.mem_eraseDups.2 hknown
    · rw [hstep, index_append_of_new hknown, add_of_new]
      rw [map_fst_index]
      exact mt List.mem_eraseDups.1 hknown

theorem under_index (key : Finding → κ) (findings : List Finding) (each : κ) :
    (index key findings).under each = findings.filter (key · == each) := by
  rw [under, index, Keyed.lookup_map_pair]
  by_cases heach : (findings.map key).eraseDups.contains each = true
  · rw [if_pos heach, Option.getD_some]
  · rw [if_neg heach, Option.getD_none, eq_comm, List.filter_eq_nil_iff]
    intro finding hfinding hkey
    apply heach
    rw [List.contains_iff_mem, List.mem_eraseDups, ← eq_of_beq hkey]
    exact List.mem_map_of_mem hfinding

theorem indexes_ofFindings (key : Finding → κ) (findings : List Finding) :
    (ofFindings key findings).Indexes key findings := by
  rw [ofFindings_eq_index]
  refine ⟨map_fst_index key findings, ?_, under_index key findings⟩
  rw [index, List.forall_mem_map]
  intro each heach hempty
  obtain ⟨finding, hfinding, rfl⟩ := List.mem_map.1 (List.mem_eraseDups.1 heach)
  exact List.filter_eq_nil_iff.1 hempty finding hfinding (beq_self_eq_true _)

end Groups

/-- Counts by a key that go with an index: each of some keys has the count of its group, zero where it
has none, and all counts together are the total. -/
structure Counts.Tells {κ : Type} [BEq κ] (counts : Counts κ) (keys : List κ) (groups : Groups κ)
    (total : Int) : Prop where
  listed : counts.map Prod.fst = keys
  count : ∀ each ∈ keys, counts.lookup each = some ((groups.under each).length : Int)
  sum : (counts.map Prod.snd).sum = total

namespace Metrics

variable {κ : Type} [BEq κ] [LawfulBEq κ] {keys : List κ} {key : Finding → κ}
  {findings : List Finding}

theorem sum_indicator (keys : List κ) (each : κ) :
    (keys.map fun other => if each == other then 1 else 0).sum = keys.count each := by
  induction keys with
  | nil => rfl
  | cons first rest ih =>
    rw [List.map_cons, List.sum_cons, ih, List.count_cons, Nat.add_comm]
    by_cases hfirst : each = first
    · rw [hfirst]
    · rw [beq_false_of_ne hfirst, beq_false_of_ne (Ne.symm hfirst)]

/-- Counted under keys that are all different, every finding is counted once. -/
theorem sum_countP (hn : keys.Nodup) (hkeys : ∀ finding ∈ findings, key finding ∈ keys) :
    (keys.map fun each => findings.countP (key · == each)).sum = findings.length := by
  induction findings with
  | nil => simp
  | cons finding rest ih =>
    rw [List.forall_mem_cons] at hkeys
    simp only [List.countP_cons, List.sum_map_add, ih hkeys.2, sum_indicator,
      List.count_eq_one_of_mem hn hkeys.1, List.length_cons]

theorem tells_tally (hn : keys.Nodup) (hkeys : ∀ finding ∈ findings, key finding ∈ keys) :
    Counts.Tells (tally keys key findings) keys (.ofFindings key findings) findings.length := by
  refine ⟨map_fst_tally keys key findings, fun each heach => ?_, ?_⟩
  · rw [tally, Keyed.lookup_map_pair, if_pos (List.contains_iff_mem.2 heach),
      (Groups.indexes_ofFindings key findings).group, List.countP_eq_length_filter]
  · rw [← sum_countP hn hkeys, Nat.cast_list_sum, tally, List.map_map, List.map_map]
    rfl

end Metrics

namespace Aggregate

/-- An aggregate whose views all tell the same of its findings. -/
structure Consistent (aggregate : Aggregate) : Prop where
  byCategory : aggregate.byCategory.Indexes (·.category) aggregate.findings
  byPriority : aggregate.byPriority.Indexes (·.priority) aggregate.findings
  byFile : aggregate.byFile.Indexes (·.file) aggregate.findings
  categories : Counts.Tells aggregate.metrics.byCategory Category.all aggregate.byCategory
    aggregate.metrics.totalFindings
  priorities : Counts.Tells aggregate.metrics.byPriority Priority.all aggregate.byPriority
    aggregate.metrics.totalFindings
  totalFindings : aggregate.metrics.totalFindings = aggregate.findings.length
  totalFiles : aggregate.metrics.totalFiles = aggregate.byFile.length

variable {findings : List Finding} {aggregate : Aggregate}

theorem consistent_of_ofFindings (h : ofFindings findings = .ok aggregate) :
    aggregate.Consistent := by
  obtain ⟨metrics, hmetrics, rfl⟩ := ofFindings_eq_ok.1 h
  obtain ⟨complexity, -, hmetrics⟩ := Outcome.bind_eq_ok.1 hmetrics
  obtain ⟨functionLength, -, hmetrics⟩ := Outcome.bind_eq_ok.1 hmetrics
  obtain ⟨classLength, -, hmetrics⟩ := Outcome.bind_eq_ok.1 hmetrics
  cases hmetrics
  have hcategory : ∀ category : Category, category ∈ Category.all := by
    intro category
    cases category <;> decide
  have hpriority : ∀ priority : Priority, priority ∈ Priority.all := by
    intro priority
    cases priority <;> decide
  refine ⟨Groups.indexes_ofFindings _ _, Groups.indexes_ofFindings _ _,
    Groups.indexes_ofFindings _ _, Metrics.tells_tally (by decide) fun _ _ => hcategory _,
    Metrics.tells_tally (by decide) fun _ _ => hpriority _, rfl, ?_⟩
  dsimp only
  rw [Groups.ofFindings_eq_index, Groups.index, List.length_map]

/-- Findings are put together exactly if the numbers in the texts of the resolved ones can be averaged,
and then the views of the outcome are consistent. -/
theorem views_ofFindings (findings : List Finding) :
    ((∃ aggregate, ofFindings findings = .ok aggregate ∧ aggregate.Consistent) ↔
      Metrics.Measurable (resolved findings)) ∧
    ∀ aggregate, ofFindings findings = .ok aggregate → aggregate.Consistent := by
  refine ⟨?_, fun aggregate h => consistent_of_ofFindings h⟩
  rw [← exists_ofFindings_iff]
  constructor
  · rintro ⟨aggregate, h, -⟩
    exact ⟨aggregate, h⟩
  · rintro ⟨aggregate, h⟩
    exact ⟨aggregate, h, consistent_of_ofFindings h⟩

/-- Two critical issues in different files and a severe one between them. -/
theorem views_ofFindings_mild : ∃ aggregate,
    ofFindings [mild, beside, severe, { severe with file := "B.kt" }] = .ok aggregate ∧
    aggregate.Consistent ∧
    aggregate.byPriority = [(.critical, [mild.raised, { severe with file := "B.kt" }]),
      (.high, [beside])] := by
  have hmeasurable : Metrics.Measurable
      (resolved [mild, beside, severe, { severe with file := "B.kt" }]) := by
    refine ⟨?_, ?_, ?_⟩ <;> exact ⟨by decide, by decide⟩
  obtain ⟨hviews, hconsistent⟩ :=
    views_ofFindings [mild, beside, severe, { severe with file := "B.kt" }]
  obtain ⟨aggregate, haggregate, -⟩ := hviews.2 hmeasurable
  refine ⟨aggregate, haggregate, hconsistent aggregate haggregate, ?_⟩
  obtain ⟨metrics, -, rfl⟩ := ofFindings_eq_ok.1 haggregate
  rfl

end Aggregate
end KotlinAudit
