import KotlinAudit.Aggregation
import KotlinAudit.Proofs.Metrics.Measurable
import KotlinAudit.Proofs.Keyed
import Mathlib.Data.List.MinMax

/-! One finding for each issue. The pass over all findings that keeps one for each key gives, for the
keys in order of first appearance, the first among the most severe findings of the key. What comes out is
read off the findings themselves: priorities are raised before issues are compared, so two findings of
different severity can become equally severe, and then the first one stays. Only the averages can fail, and
they are read off what has come out, so a number in the text of a finding that gives way to a more severe
one of its issue does no harm. -/
namespace KotlinAudit

namespace Finding

@[simp] theorem raised_key (finding : Finding) : finding.raised.key = finding.key := rfl

@[simp] theorem raised_category (finding : Finding) : finding.raised.category = finding.category :=
  rfl

/-- The raised priority is as severe as the more severe one of the finding's own priority and the
floor of its category. -/
theorem rank_raised (finding : Finding) :
    finding.raised.priority.rank = max finding.priority.rank finding.category.floor.rank := by
  simp only [raised, Priority.raisedTo]
  by_cases h : finding.priority.moreSevere finding.category.floor
  · rw [if_pos h]
    simp only [Priority.moreSevere, decide_eq_true_eq] at h
    omega
  · rw [if_neg h]
    simp only [Priority.moreSevere, decide_eq_true_eq] at h
    omega

/-- Raising a second time changes nothing. -/
theorem raised_raised (finding : Finding) : finding.raised.raised = finding.raised := by
  simp only [raised, Priority.raisedTo]
  by_cases h : finding.priority.moreSevere finding.category.floor
  · simp only [if_pos h]
  · simp only [if_neg h, ite_self]

end Finding

namespace Aggregate

/-- The first among the most severe findings. -/
def leading? (findings : List Finding) : Option Finding := findings.argmax (·.priority.rank)

/-- The findings of one issue. -/
def ofKey (key : Finding.Key) (findings : List Finding) : List Finding :=
  findings.filter (·.key = key)

/-- The issues of some findings in order of first appearance. -/
def keys (findings : List Finding) : List Finding.Key := (findings.map Finding.key).eraseDups

/-- For each issue the first among its most severe findings. -/
def representatives (findings : List Finding) : List Finding :=
  (keys findings).filterMap fun key => leading? (ofKey key findings)

variable {findings : List Finding} {finding : Finding} {key : Finding.Key}

theorem mem_keys : key ∈ keys findings ↔ ∃ finding ∈ findings, finding.key = key := by
  simp [keys]

theorem leading?_ofKey_isSome (h : key ∈ keys findings) :
    (leading? (ofKey key findings)).isSome := by
  obtain ⟨finding, hmem, hkey⟩ := mem_keys.1 h
  rw [Option.isSome_iff_ne_none, leading?, Ne, List.argmax_eq_none]
  exact List.ne_nil_of_mem (List.mem_filter.2 ⟨hmem, by simpa using hkey⟩)

theorem key_of_leading? (h : leading? (ofKey key findings) = some finding) : finding.key = key := by
  have hmem := List.argmax_mem (show finding ∈ (ofKey key findings).argmax _ from h)
  simpa using (List.mem_filter.1 hmem).2

/-- The representatives have the keys of all findings, each of them once. -/
theorem map_key_representatives (findings : List Finding) :
    (representatives findings).map Finding.key = keys findings := by
  have hsome : ∀ key ∈ keys findings,
      (leading? (ofKey key findings)).map Finding.key = some key := by
    intro key hkey
    obtain ⟨finding, hf⟩ := Option.isSome_iff_exists.1 (leading?_ofKey_isSome hkey)
    rw [hf, Option.map_some, key_of_leading? hf]
  rw [representatives, List.map_filterMap, List.filterMap_congr hsome, List.filterMap_some]

theorem nodup_keys (findings : List Finding) : (keys findings).Nodup :=
  Repeats.nodup_eraseDups _

/-! ### Taking in one more finding -/

/-- The one that stays when a finding of the same issue is taken in. -/
def stronger (kept finding : Finding) : Finding :=
  if finding.priority.moreSevere kept.priority then finding else kept

/-- A new issue is put at the end. -/
theorem keep_of_new {kept : List Finding} (h : finding.key ∉ kept.map Finding.key) :
    keep kept finding = kept ++ [finding] := by
  induction kept with
  | nil => rfl
  | cons other rest ih =>
    simp only [List.map_cons, List.mem_cons, not_or] at h
    rw [keep, if_neg (Ne.symm h.1), ih h.2, List.cons_append]

/-- A finding of a known issue changes nothing but that issue's representative. -/
theorem keep_of_known {kept : List Finding} (hn : (kept.map Finding.key).Nodup)
    (h : finding.key ∈ kept.map Finding.key) :
    keep kept finding =
      kept.map fun other => if other.key = finding.key then stronger other finding else other := by
  induction kept with
  | nil => simp at h
  | cons other rest ih =>
    simp only [List.map_cons, List.nodup_cons] at hn
    by_cases hk : other.key = finding.key
    · -- the keys behind are other ones, so the rest stays as it is
      have hrest : ∀ later ∈ rest, later.key ≠ finding.key := fun later hl he =>
        hn.1 (by rw [hk, ← he]; exact List.mem_map_of_mem hl)
      rw [keep, if_pos hk, List.map_cons, if_pos hk]
      congr 1
      rw [List.map_congr_left fun later hl => if_neg (hrest later hl), List.map_id']
    · have hmem : finding.key ∈ rest.map Finding.key := by
        simpa [Ne.symm hk] using h
      rw [keep, if_neg hk, List.map_cons, if_neg hk, ih hn.2 hmem]

theorem leading?_append_singleton (group : List Finding) :
    leading? (group ++ [finding]) =
      some ((leading? group).elim finding (stronger · finding)) := by
  rw [leading?, List.argmax_concat]
  cases h : leading? group with
  | none => simp [show group.argmax (·.priority.rank) = none from h]
  | some kept =>
    simp only [show group.argmax (·.priority.rank) = some kept from h, Option.elim_some, stronger,
      Priority.moreSevere, decide_eq_true_eq]
    split_ifs <;> rfl

theorem keys_append_singleton_of_mem (h : finding.key ∈ keys findings) :
    keys (findings ++ [finding]) = keys findings := by
  rw [keys, List.map_append, List.map_singleton]
  exact Repeats.eraseDups_concat_of_mem (List.mem_map.2 (mem_keys.1 h))

theorem keys_append_singleton_of_not_mem (h : finding.key ∉ keys findings) :
    keys (findings ++ [finding]) = keys findings ++ [finding.key] := by
  rw [keys, List.map_append, List.map_singleton]
  exact Repeats.eraseDups_concat_of_notMem fun hmem => h (mem_keys.2 (List.mem_map.1 hmem))

theorem ofKey_append_singleton_of_ne (h : finding.key ≠ key) :
    ofKey key (findings ++ [finding]) = ofKey key findings := by
  simp [ofKey, h]

theorem ofKey_append_singleton_self (findings : List Finding) (finding : Finding) :
    ofKey finding.key (findings ++ [finding]) = ofKey finding.key findings ++ [finding] := by
  simp [ofKey]

theorem representatives_append_of_new (h : finding.key ∉ keys findings) :
    representatives (findings ++ [finding]) = representatives findings ++ [finding] := by
  have hold : ∀ key ∈ keys findings, leading? (ofKey key (findings ++ [finding])) =
      leading? (ofKey key findings) := by
    intro key hkey
    rw [ofKey_append_singleton_of_ne fun he => h (he ▸ hkey)]
  have hempty : ofKey finding.key findings = [] := by
    rw [ofKey, List.filter_eq_nil_iff]
    intro other hother hk
    exact h (mem_keys.2 ⟨other, hother, by simpa using hk⟩)
  rw [representatives, keys_append_singleton_of_not_mem h, List.filterMap_append,
    List.filterMap_congr hold]
  simp [representatives, ofKey_append_singleton_self, hempty, leading?]

theorem representatives_append_of_known (h : finding.key ∈ keys findings) :
    representatives (findings ++ [finding]) = (representatives findings).map fun other =>
      if other.key = finding.key then stronger other finding else other := by
  rw [representatives, keys_append_singleton_of_mem h, representatives, List.map_filterMap]
  apply List.filterMap_congr
  intro key hkey
  obtain ⟨kept, hkept⟩ := Option.isSome_iff_exists.1 (leading?_ofKey_isSome hkey)
  have hkk := key_of_leading? hkept
  by_cases he : finding.key = key
  · subst he
    rw [ofKey_append_singleton_self, leading?_append_singleton, hkept]
    simp [hkk]
  · rw [ofKey_append_singleton_of_ne he, hkept]
    simp [hkk, Ne.symm he]

/-- What one more finding does to the findings kept. -/
theorem keep_representatives (findings : List Finding) (finding : Finding) :
    keep (representatives findings) finding = representatives (findings ++ [finding]) := by
  by_cases h : finding.key ∈ keys findings
  · rw [representatives_append_of_known h]
    refine keep_of_known ?_ ?_ <;> rw [map_key_representatives]
    · exact nodup_keys findings
    · exact h
  · rw [representatives_append_of_new h]
    exact keep_of_new (by rwa [map_key_representatives])

/-- The whole pass: for each issue the first among its most severe findings stays. -/
theorem withoutDuplicates_eq (findings : List Finding) :
    withoutDuplicates findings = representatives findings := by
  induction findings using List.reverseRecOn with
  | nil => rfl
  | append_singleton findings finding ih =>
    rw [withoutDuplicates, List.foldl_append, List.foldl_cons, List.foldl_nil, ← withoutDuplicates,
      ih, keep_representatives]

/-! ### What comes out -/

/-- The first among those findings of an issue whose raised priorities are most severe, raised. -/
def resolved? (findings : List Finding) (key : Finding.Key) : Option Finding :=
  ((ofKey key findings).argmax (·.raised.priority.rank)).map Finding.raised

/-- The resolved findings of all issues in order of first appearance. -/
def resolved (findings : List Finding) : List Finding :=
  (keys findings).filterMap (resolved? findings)

theorem keys_map_raised (findings : List Finding) :
    keys (findings.map Finding.raised) = keys findings := by
  rw [keys, keys, List.map_map]
  rfl

theorem ofKey_map_raised (key : Finding.Key) (findings : List Finding) :
    ofKey key (findings.map Finding.raised) = (ofKey key findings).map Finding.raised := by
  rw [ofKey, ofKey, List.filter_map]
  rfl

theorem leading?_map_raised (group : List Finding) :
    leading? (group.map Finding.raised) =
      (group.argmax (·.raised.priority.rank)).map Finding.raised := by
  induction group using List.reverseRecOn with
  | nil => rfl
  | append_singleton group finding ih =>
    rw [List.map_append, List.map_singleton, leading?_append_singleton, ih, List.argmax_concat]
    cases group.argmax (·.raised.priority.rank) with
    | none => rfl
    | some kept =>
      simp only [Option.map_some, Option.elim_some, stronger, Priority.moreSevere,
        decide_eq_true_eq]
      split_ifs <;> rfl

theorem representatives_map_raised (findings : List Finding) :
    representatives (findings.map Finding.raised) = resolved findings := by
  rw [representatives, resolved, keys_map_raised]
  apply List.filterMap_congr
  intro key _
  rw [ofKey_map_raised, leading?_map_raised, resolved?]

theorem withoutDuplicates_map_raised (findings : List Finding) :
    withoutDuplicates (findings.map Finding.raised) = resolved findings := by
  rw [withoutDuplicates_eq, representatives_map_raised]

theorem map_key_resolved (findings : List Finding) :
    (resolved findings).map Finding.key = keys findings := by
  rw [← representatives_map_raised, map_key_representatives, keys_map_raised]

/-- A resolved finding is the raised form of a finding, and none of its issue is more severe. -/
theorem exists_of_mem_resolved {findings : List Finding} {result : Finding}
    (h : result ∈ resolved findings) :
    ∃ finding ∈ findings, finding.raised = result ∧
      ∀ other ∈ findings, other.key = result.key →
        other.raised.priority.rank ≤ result.priority.rank := by
  obtain ⟨key, -, hkey⟩ := List.mem_filterMap.1 h
  obtain ⟨finding, hmax, hresult⟩ := Option.map_eq_some_iff.1 hkey
  obtain ⟨hmem, hk⟩ := List.mem_filter.1 (List.argmax_mem hmax)
  refine ⟨finding, hmem, hresult, fun other hother hok => ?_⟩
  subst hresult
  have hsame : other.key = key := hok.trans (of_decide_eq_true hk)
  have hgroup : other ∈ ofKey key findings := List.mem_filter.2 ⟨hother, decide_eq_true hsame⟩
  exact List.le_of_mem_argmax (f := (·.raised.priority.rank)) hgroup hmax

/-- The outcome is made of the resolved findings, once their metrics can be computed. -/
theorem ofFindings_eq_ok {findings : List Finding} {aggregate : Aggregate} :
    ofFindings findings = .ok aggregate ↔
      ∃ metrics, Metrics.ofFindings (resolved findings) = .ok metrics ∧
        aggregate = ⟨resolved findings, metrics, .ofFindings (·.category) (resolved findings),
          .ofFindings (·.priority) (resolved findings), .ofFindings (·.file) (resolved findings)⟩ := by
  unfold ofFindings
  rw [withoutDuplicates_map_raised, Outcome.bind_eq_ok]
  refine exists_congr fun metrics => and_congr_right fun _ => ?_
  exact ⟨fun h => (Except.ok.inj h).symm, fun h => congrArg Except.ok h.symm⟩

theorem nodup_keys_ofFindings {findings : List Finding} {aggregate : Aggregate}
    (h : ofFindings findings = .ok aggregate) : (aggregate.findings.map Finding.key).Nodup := by
  obtain ⟨metrics, -, rfl⟩ := ofFindings_eq_ok.1 h
  rw [map_key_resolved]
  exact nodup_keys findings

/-- Putting findings together gives the resolved findings and nothing else, and gives them exactly
if the numbers in their texts can be averaged. No issue is there twice and none is lost; no result is
less severe than its category allows or than any finding of its issue. -/
theorem findings_ofFindings (findings : List Finding) :
    (∀ kept, (∃ aggregate, ofFindings findings = .ok aggregate ∧ aggregate.findings = kept) ↔
      kept = resolved findings ∧ Metrics.Measurable kept) ∧
    ((resolved findings).map Finding.key).Nodup ∧
    (∀ key, key ∈ (resolved findings).map Finding.key ↔ key ∈ findings.map Finding.key) ∧
    ∀ result ∈ resolved findings, result.category.floor.rank ≤ result.priority.rank ∧
      ∀ finding ∈ findings, finding.key = result.key →
        finding.priority.rank ≤ result.priority.rank := by
  refine ⟨fun kept => ⟨?_, ?_⟩, ?_, fun key => ?_, fun result hresult => ?_⟩
  · rintro ⟨aggregate, h, rfl⟩
    obtain ⟨metrics, hm, rfl⟩ := ofFindings_eq_ok.1 h
    exact ⟨rfl, Metrics.exists_ofFindings_iff.1 ⟨metrics, hm⟩⟩
  · rintro ⟨rfl, h⟩
    obtain ⟨metrics, hm⟩ := Metrics.exists_ofFindings_iff.2 h
    exact ⟨_, ofFindings_eq_ok.2 ⟨metrics, hm, rfl⟩, rfl⟩
  · rw [map_key_resolved]
    exact nodup_keys findings
  · rw [map_key_resolved, mem_keys, List.mem_map]
  · obtain ⟨finding, -, rfl, hmax⟩ := exists_of_mem_resolved hresult
    constructor
    · rw [Finding.raised_category, Finding.rank_raised]
      exact le_max_right _ _
    · intro other hother hkey
      refine le_trans ?_ (hmax other hother hkey)
      rw [Finding.rank_raised other]
      exact le_max_left _ _

/-- A finding of the least severe priority in a category whose findings are all critical. -/
def mild : Finding :=
  ⟨"mild", "security", .security, .low, "Hard-coded Secret", "A key.", "A.kt", 3, none, "", "", none,
    none, false, .small, []⟩

/-- The same issue with the priority that the category asks for. -/
def severe : Finding := { mild with id := "severe", priority := .critical }

/-- Another issue at the same line. -/
def beside : Finding := { mild with id := "beside", category := .naming, priority := .high }

/-- Raised to the floor of their category two findings are equally severe, and the first one stays
at its place. -/
theorem findings_ofFindings_mild :
    (∃ aggregate, ofFindings [mild, beside, severe] = .ok aggregate ∧
      aggregate.findings = [{ mild with priority := .critical }, beside]) ∧
    mild.raised ∈ resolved [mild, beside, severe] ∧ severe.key = mild.raised.key ∧
    mild.raised.category.floor.rank ≤ mild.raised.priority.rank ∧
    severe.priority.rank ≤ mild.raised.priority.rank := by
  obtain ⟨hok, -, -, hresult⟩ := findings_ofFindings [mild, beside, severe]
  have hmem : mild.raised ∈ resolved [mild, beside, severe] := by decide
  have hm : Metrics.Measurable (resolved [mild, beside, severe]) := by
    refine ⟨?_, ?_, ?_⟩ <;> exact ⟨by decide, by decide⟩
  refine ⟨?_, hmem, rfl, (hresult _ hmem).1, (hresult _ hmem).2 severe (by decide) rfl⟩
  obtain ⟨aggregate, h, hf⟩ := (hok _).2 ⟨rfl, hm⟩
  exact ⟨aggregate, h, hf.trans (by decide)⟩

/-! ### A part of the findings

Where a part takes in whole issues, it can be cut out before or after findings are put together; findings
that come again change nothing. -/

variable {others : List Finding}

theorem keys_filter (part : Finding.Key → Bool) (findings : List Finding) :
    keys (findings.filter (part ·.key)) = (keys findings).filter part := by
  rw [keys, keys, ← Repeats.eraseDups_filter, List.filter_map]
  rfl

theorem ofKey_filter {part : Finding.Key → Bool} {key : Finding.Key} (h : part key)
    (findings : List Finding) :
    ofKey key (findings.filter (part ·.key)) = ofKey key findings := by
  rw [ofKey, ofKey, List.filter_filter]
  refine List.filter_congr fun finding _ => ?_
  by_cases hk : finding.key = key
  · simp [hk, h]
  · simp [hk]

theorem key_of_resolved? {key : Finding.Key} {finding : Finding}
    (h : resolved? findings key = some finding) : finding.key = key := by
  obtain ⟨origin, hmax, rfl⟩ := Option.map_eq_some_iff.1 h
  simpa using (List.mem_filter.1 (List.argmax_mem hmax)).2

/-- A part that takes in whole issues can be cut out first. -/
theorem resolved_filter (part : Finding.Key → Bool) (findings : List Finding) :
    resolved (findings.filter (part ·.key)) = (resolved findings).filter (part ·.key) := by
  rw [resolved, resolved, keys_filter, List.filterMap_filter, List.filter_filterMap]
  refine List.filterMap_congr fun key _ => ?_
  by_cases h : part key
  · rw [if_pos h, resolved?, ofKey_filter h, ← resolved?]
    cases hfound : resolved? findings key with
    | none => rfl
    | some finding => simp [Option.filter, key_of_resolved? hfound, h]
  · rw [if_neg h]
    cases hfound : resolved? findings key with
    | none => rfl
    | some finding => simp [Option.filter, key_of_resolved? hfound, h]

theorem argmax_append_of_subset {α : Type} (rank : α → Nat) {list more : List α}
    (h : more ⊆ list) : (list ++ more).argmax rank = list.argmax rank := by
  induction more using List.reverseRecOn with
  | nil => rw [List.append_nil]
  | append_singleton more last ih =>
    obtain ⟨hmore, hlast⟩ := List.append_subset.1 h
    rw [← List.append_assoc, List.argmax_concat, ih hmore]
    have hmem : last ∈ list := hlast (List.mem_singleton_self last)
    cases hmax : list.argmax rank with
    | none => exact absurd (List.argmax_eq_none.1 hmax) (List.ne_nil_of_mem hmem)
    | some best => exact if_neg (Nat.not_lt_of_le (List.le_of_mem_argmax hmem hmax))

/-- Findings that are there already change nothing when they come again. -/
theorem resolved_append_of_subset (h : others ⊆ findings) :
    resolved (findings ++ others) = resolved findings := by
  have hkeys : keys (findings ++ others) = keys findings := by
    have hnone : (others.map Finding.key).removeAll (findings.map Finding.key) = [] := by
      rw [List.removeAll, List.filter_eq_nil_iff]
      intro key hkey
      obtain ⟨finding, hfinding, rfl⟩ := List.mem_map.1 hkey
      simp [List.mem_map_of_mem (h hfinding)]
    rw [keys, List.map_append, List.eraseDups_append, hnone, List.eraseDups_nil, List.append_nil,
      keys]
  rw [resolved, resolved, hkeys]
  refine List.filterMap_congr fun key _ => ?_
  rw [resolved?, resolved?, ofKey, ofKey, List.filter_append,
    argmax_append_of_subset _ (List.filter_subset _ h)]

/-! ### When findings cannot be put together -/

theorem failure?_ofFindings (findings : List Finding) :
    Outcome.failure? (ofFindings findings) = Metrics.faultIn? (resolved findings) := by
  rw [← Metrics.failure?_ofFindings]
  unfold ofFindings
  rw [withoutDuplicates_map_raised]
  dsimp only
  cases Metrics.ofFindings (resolved findings) with
  | error failure => rfl
  | ok metrics => rfl

/-- The digits that are read off the resolved findings are read off some of the findings. -/
theorem exists_of_mem_scraped {pattern : Pattern} {words : List String} {findings : List Finding}
    {digits : List Char} (h : digits ∈ Metrics.scraped pattern words (resolved findings)) :
    ∃ finding ∈ findings, digitsIn? pattern finding.statement = some digits := by
  obtain ⟨result, hresult, hdigits⟩ := Metrics.mem_scraped.1 h
  obtain ⟨finding, hfinding, rfl, -⟩ := exists_of_mem_resolved (List.mem_filter.1 hresult).1
  exact ⟨finding, hfinding, hdigits⟩

/-- Findings are put together unless the numbers in the texts of the resolved ones have no mean, and
then it fails for the first average that cannot be taken: for a number of more digits than may be
read, else for a mean that rounds beyond the largest binary number. Texts whose numbers have at most
308 digits never get in the way. -/
theorem ofFindings_outcome (findings : List Finding) :
    ((∃ aggregate, ofFindings findings = .ok aggregate) ↔
      Metrics.faultIn? (resolved findings) = none) ∧
    (∀ failure, ofFindings findings = .error failure ↔
      Metrics.faultIn? (resolved findings) = some failure) ∧
    ((∀ finding ∈ findings, ∀ pattern ∈ [complexityPattern, lengthPattern],
        ∀ digits ∈ digitsIn? pattern finding.statement, digits.length ≤ 308) →
      ∃ aggregate, ofFindings findings = .ok aggregate) := by
  have hok : (∃ aggregate, ofFindings findings = .ok aggregate) ↔
      Metrics.faultIn? (resolved findings) = none := by
    rw [← failure?_ofFindings, Outcome.failure?_eq_none_iff]
  refine ⟨hok, fun failure => ?_, fun hshort => hok.2 ?_⟩
  · rw [← failure?_ofFindings, Outcome.failure?_eq_some_iff]
  · have hfine : ∀ pattern ∈ [complexityPattern, lengthPattern], ∀ words,
        Metrics.fault? (Metrics.scraped pattern words (resolved findings)) = none := by
      intro pattern hpattern words
      apply Metrics.fault?_of_short
      intro digits hdigits
      obtain ⟨finding, hfinding, hread⟩ := exists_of_mem_scraped hdigits
      exact hshort finding hfinding pattern hpattern digits hread
    unfold Metrics.faultIn?
    rw [hfine _ (by simp), hfine _ (by simp), hfine _ (by simp)]
    rfl

/-- A code smell whose text states a complexity. -/
def stated (digits : List Char) : Finding :=
  ⟨"stated", "code-smell", .codeSmell, .low, "Complexity", String.ofList digits, "F.kt", 1, none, "",
    "", none, none, false, .small, []⟩

theorem statement_stated (digits : List Char) :
    (stated digits).statement = "Complexity".toList ++ ' ' :: digits :=
  congrArg (fun rest => "Complexity".toList ++ ' ' :: rest) String.toList_ofList

/-- More digits than a mean may have. -/
def overlong : List Char := '1' :: List.replicate 309 '0'

theorem digitsIn?_overlong :
    digitsIn? complexityPattern (stated overlong).statement = some overlong := by
  rw [statement_stated]
  decide +kernel

theorem scraped_overlong :
    Metrics.scraped complexityPattern ["complexity"] (resolved [stated overlong]) = [overlong] := by
  have hresolved : resolved [stated overlong] = [(stated overlong).raised] := rfl
  have hsmells : Metrics.smells ["complexity"] [(stated overlong).raised] =
      [(stated overlong).raised] := List.filter_cons_of_pos (by decide +kernel)
  have hread : [(stated overlong).raised].filterMap
      (fun finding => digitsIn? complexityPattern finding.statement) = [overlong] :=
    List.filterMap_cons_some digitsIn?_overlong
  rw [hresolved, Metrics.scraped, hsmells, hread]

/-- A number of 310 digits cannot be averaged. Where its finding gives way to a more severe one, or
where numbers are short, nothing fails. -/
theorem ofFindings_outcome_overlong :
    ofFindings [stated overlong] = .error .tooLarge ∧
    (∃ aggregate, ofFindings [stated overlong, { stated ['7'] with priority := .critical }] =
      .ok aggregate) ∧
    ∃ aggregate, ofFindings [stated ['1', '7']] = .ok aggregate := by
  refine ⟨((ofFindings_outcome _).2.1 .tooLarge).2 ?_, (ofFindings_outcome _).1.2 (by decide +kernel),
    (ofFindings_outcome _).2.2 (by decide +kernel)⟩
  have hfault : Metrics.fault? [overlong] = some .tooLarge := by decide +kernel
  rw [Metrics.faultIn?, scraped_overlong, hfault]
  rfl

end Aggregate
end KotlinAudit
