import KotlinAudit.Bundled
import KotlinAudit.Proofs.Keyed
import Mathlib.Data.List.Nodup

/-! Which analyzers are registered and which are selected. Of analyzers registered one after the other the
first of each identifier stays, and a selection takes the requested identifiers apart; those in the order
of the registry select its analyzers in their order. A bundled analyzer reports under its own identifier
and category, and about the file that it was given; no two of them share an identifier or a category. -/
namespace KotlinAudit

namespace Registry

open Repeats (InOrderOf)

variable {registry after : Registry} {analyzer : Analyzer} {id : String} {ids : List String}

theorem of_find?_eq_some (h : registry.find? id = some analyzer) :
    analyzer ∈ registry.analyzers ∧ analyzer.id = id :=
  ⟨List.mem_of_find?_eq_some h, by simpa using List.find?_some h⟩

theorem find?_of_mem (h : analyzer ∈ registry.analyzers) :
    registry.find? analyzer.id = some analyzer := by
  cases hfound : registry.find? analyzer.id with
  | none => exact absurd (List.mem_map_of_mem h) (not_mem_ids_of_find?_eq_none hfound)
  | some other =>
    obtain ⟨hother, hid⟩ := of_find?_eq_some hfound
    rw [List.inj_on_of_nodup_map registry.distinct hother h hid]

theorem mem_select : analyzer ∈ (registry.select ids).1 ↔
    analyzer ∈ registry.analyzers ∧ analyzer.id ∈ ids := by
  simp only [select, List.mem_filterMap, List.mem_eraseDups]
  constructor
  · rintro ⟨id, hid, hfound⟩
    obtain ⟨hmem, rfl⟩ := of_find?_eq_some hfound
    exact ⟨hmem, hid⟩
  · rintro ⟨hmem, hid⟩
    exact ⟨analyzer.id, hid, find?_of_mem hmem⟩

theorem nodup_analyzers (registry : Registry) : registry.analyzers.Nodup :=
  registry.distinct.of_map _

theorem nodup_select (registry : Registry) (ids : List String) :
    (registry.select ids).1.Nodup := by
  refine List.Nodup.filterMap (fun id other analyzer hid hother => ?_)
    (Repeats.nodup_eraseDups ids)
  rw [← (of_find?_eq_some hid).2, ← (of_find?_eq_some hother).2]

theorem filterMap_find? {analyzers : List Analyzer} (hnodup : (analyzers.map Analyzer.id).Nodup)
    (h : ids.Sublist (analyzers.map Analyzer.id)) :
    (ids.filterMap fun id => analyzers.find? (·.id == id)) =
      analyzers.filter (ids.contains ·.id) := by
  induction analyzers generalizing ids with
  | nil =>
    rw [List.map_nil, List.sublist_nil] at h
    rw [h]
    rfl
  | cons first rest ih =>
    rw [List.map_cons, List.nodup_cons] at hnodup
    obtain ⟨hfirst, hrest⟩ := hnodup
    have hbehind : ∀ ids : List String, ids.Sublist (rest.map Analyzer.id) →
        (ids.filterMap fun id => (first :: rest).find? (·.id == id)) =
          rest.filter (ids.contains ·.id) := by
      intro ids hids
      rw [← ih hrest hids]
      refine List.filterMap_congr fun id hid => ?_
      have hne : first.id ≠ id := fun heq => hfirst (heq ▸ hids.subset hid)
      rw [List.find?_cons_of_neg (by simpa using hne)]
    cases h with
    | cons _ hids =>
      have hnot : first.id ∉ ids := fun hmem => hfirst (hids.subset hmem)
      rw [hbehind ids hids, List.filter_cons_of_neg (by simpa using hnot)]
    | cons_cons _ hids =>
      rename_i others
      have hothers : ∀ other ∈ rest, ((first.id :: others).contains other.id) =
          others.contains other.id := by
        intro other hother
        have hne : other.id ≠ first.id :=
          fun heq => hfirst (heq ▸ List.mem_map_of_mem hother)
        simp [hne]
      have hfound : (first :: rest).find? (·.id == first.id) = some first := by simp
      rw [List.filterMap_cons, hfound, hbehind others hids, List.filter_cons_of_pos (by simp),
        List.filter_congr hothers]

/-- Identifiers in the order of the registry select analyzers in its order. -/
theorem select_of_sublist (h : ids.Sublist registry.ids) :
    (registry.select ids).1 = registry.analyzers.filter (ids.contains ·.id) := by
  rw [select, Repeats.eraseDups_of_nodup (registry.distinct.sublist h)]
  exact filterMap_find? registry.distinct h

/-! ### Registering one after the other -/

theorem find?_eq_none_iff : registry.find? id = none ↔ id ∉ registry.ids := by
  refine ⟨not_mem_ids_of_find?_eq_none, fun h => ?_⟩
  rw [find?, List.find?_eq_none]
  exact fun analyzer hmem hid => h (List.mem_map.2 ⟨analyzer, hmem, beq_iff_eq.1 hid⟩)

theorem contains_iff : registry.contains id = true ↔ id ∈ registry.ids := by
  rw [contains, Option.isSome_iff_ne_none, Ne, find?_eq_none_iff, not_not]

/-- An analyzer whose identifier is taken is refused. -/
theorem register_eq_error_iff {taken : TakenId} : registry.register analyzer = .error taken ↔
    analyzer.id ∈ registry.ids ∧ taken = ⟨analyzer.id⟩ := by
  unfold register
  split
  · next found hfound =>
    have hmem : analyzer.id ∈ registry.ids := contains_iff.1 (by rw [contains, hfound]; rfl)
    rw [Except.error.injEq, and_iff_right hmem]
    exact eq_comm
  · next hnone => exact iff_of_false nofun fun h => not_mem_ids_of_find?_eq_none hnone h.1

/-- Any other one is added at the end. -/
theorem register_eq_ok_iff : registry.register analyzer = .ok after ↔
    analyzer.id ∉ registry.ids ∧ after.analyzers = registry.analyzers ++ [analyzer] := by
  unfold register
  split
  · next found hfound =>
    exact iff_of_false nofun fun h => h.1 (contains_iff.1 (by rw [contains, hfound]; rfl))
  · next hnone =>
    rw [and_iff_right (not_mem_ids_of_find?_eq_none hnone), Except.ok.injEq]
    constructor
    · rintro rfl
      rfl
    · obtain ⟨analyzers, distinct⟩ := after
      rintro rfl
      rfl

/-- The registry after a call to register an analyzer; a call that fails changes nothing. -/
def called (registry : Registry) (analyzer : Analyzer) : Registry :=
  match registry.register analyzer with
  | .ok after => after
  | .error _ => registry

/-- The registry after some calls, one after the other. -/
def calledAll (registry : Registry) (calls : List Analyzer) : Registry := calls.foldl called registry

theorem called_of_mem (h : analyzer.id ∈ registry.ids) : registry.called analyzer = registry := by
  rw [called, register_eq_error_iff.2 ⟨h, rfl⟩]

theorem analyzers_called_of_notMem (h : analyzer.id ∉ registry.ids) :
    (registry.called analyzer).analyzers = registry.analyzers ++ [analyzer] := by
  unfold called
  split
  · next after hregister => exact (register_eq_ok_iff.1 hregister).2
  · next taken hregister => exact absurd (register_eq_error_iff.1 hregister).1 h

theorem find?_called (registry : Registry) (analyzer : Analyzer) (id : String) :
    (registry.called analyzer).find? id = (registry.analyzers ++ [analyzer]).find? (·.id == id) := by
  by_cases h : analyzer.id ∈ registry.ids
  · rw [called_of_mem h, List.find?_append]
    cases hfound : registry.find? id with
    | some found => rw [← find?, hfound, Option.some_or]
    | none =>
      have hne : analyzer.id ≠ id := fun heq => find?_eq_none_iff.1 hfound (heq ▸ h)
      rw [← find?, hfound, Option.none_or, List.find?_singleton, if_neg (by simpa using hne)]
  · rw [find?, analyzers_called_of_notMem h]

theorem ids_called (registry : Registry) (analyzer : Analyzer) :
    (registry.called analyzer).ids = (registry.ids ++ [analyzer.id]).eraseDups := by
  have hself : registry.ids.eraseDups = registry.ids := Repeats.eraseDups_of_nodup registry.distinct
  by_cases h : analyzer.id ∈ registry.ids
  · rw [called_of_mem h, Repeats.eraseDups_concat_of_mem h, hself]
  · rw [Repeats.eraseDups_concat_of_notMem h, hself, ids, analyzers_called_of_notMem h, List.map_append]
    rfl

/-- Under every identifier the first analyzer stays that was registered with it. -/
theorem find?_calledAll (registry : Registry) (calls : List Analyzer) (id : String) :
    (registry.calledAll calls).find? id = (registry.analyzers ++ calls).find? (·.id == id) := by
  induction calls generalizing registry with
  | nil => rw [List.append_nil]; rfl
  | cons analyzer rest ih =>
    rw [calledAll, List.foldl_cons, ← calledAll, ih, List.find?_append, ← find?, find?_called,
      ← List.find?_append, List.append_assoc, List.singleton_append]

theorem calledAll_concat (registry : Registry) (calls : List Analyzer) (last : Analyzer) :
    registry.calledAll (calls ++ [last]) = (registry.calledAll calls).called last := List.foldl_concat ..

/-- The identifiers stand in the order in which they were registered first. -/
theorem ids_calledAll (registry : Registry) (calls : List Analyzer) :
    (registry.calledAll calls).ids = (registry.ids ++ calls.map Analyzer.id).eraseDups := by
  induction calls using List.reverseRecOn with
  | nil =>
    rw [List.map_nil, List.append_nil]
    exact (Repeats.eraseDups_of_nodup registry.distinct).symm
  | append_singleton calls last ih =>
    rw [calledAll_concat, List.map_append, List.map_singleton, ← List.append_assoc]
    by_cases h : last.id ∈ registry.ids ++ calls.map Analyzer.id
    · rw [called_of_mem (ih ▸ List.mem_eraseDups.2 h), ih, Repeats.eraseDups_concat_of_mem h]
    · rw [ids, analyzers_called_of_notMem (ih ▸ mt List.mem_eraseDups.1 h), List.map_append,
        Repeats.eraseDups_concat_of_notMem h, ← ih]
      rfl

/-- The analyzers are those that the identifiers lead to. -/
theorem filterMap_ids (registry : Registry) : registry.ids.filterMap registry.find? = registry.analyzers := by
  rw [ids, List.filterMap_map]
  calc registry.analyzers.filterMap (registry.find? ∘ Analyzer.id)
    _ = registry.analyzers.filterMap some := List.filterMap_congr fun analyzer h => find?_of_mem h
    _ = registry.analyzers := List.filterMap_some

/-! ### Selections -/

theorem map_id_select (registry : Registry) (requested : List String) :
    (registry.select requested).1.map Analyzer.id =
      requested.eraseDups.filter fun id => decide (id ∈ registry.ids) := by
  rw [select, List.map_filterMap, ← List.filterMap_eq_filter]
  refine List.filterMap_congr fun id _ => ?_
  cases hfound : registry.find? id with
  | none => simp [Option.guard, find?_eq_none_iff.1 hfound]
  | some analyzer =>
    obtain ⟨hmem, hid⟩ := of_find?_eq_some hfound
    have hids : id ∈ registry.ids := hid ▸ List.mem_map_of_mem hmem
    simp [Option.guard, hids, hid]

theorem unknown_select (registry : Registry) (requested : List String) :
    (registry.select requested).2 = requested.eraseDups.filter fun id => !decide (id ∈ registry.ids) := by
  refine List.filter_congr fun id _ => ?_
  rw [Bool.eq_iff_iff, Bool.not_eq_true', Bool.not_eq_true', Bool.eq_false_iff, Ne, contains_iff,
    decide_eq_false_iff_not]

/-- Requested identifiers taken apart into analyzers that are registered and identifiers that are not, each
once and in the order in which they were requested first. -/
structure Splits (registry : Registry) (requested : List String) (selected : List Analyzer)
    (unknown : List String) : Prop where
  mem_selected : ∀ id, id ∈ selected.map Analyzer.id ↔ id ∈ requested ∧ id ∈ registry.ids
  registered : ∀ analyzer ∈ selected, registry.find? analyzer.id = some analyzer
  order_selected : InOrderOf requested (selected.map Analyzer.id)
  mem_unknown : ∀ id, id ∈ unknown ↔ id ∈ requested ∧ id ∉ registry.ids
  order_unknown : InOrderOf requested unknown

theorem splits_select (registry : Registry) (requested : List String) :
    registry.Splits requested (registry.select requested).1 (registry.select requested).2 := by
  have horder := Repeats.inOrderOf_eraseDups requested
  refine ⟨fun id => ?_, fun analyzer h => find?_of_mem (mem_select.1 h).1, ?_, fun id => ?_, ?_⟩
  · rw [map_id_select, List.mem_filter, List.mem_eraseDups, decide_eq_true_iff]
  · exact map_id_select registry requested ▸ horder.sublist List.filter_sublist
  · rw [unknown_select, List.mem_filter, List.mem_eraseDups, Bool.not_eq_true', decide_eq_false_iff_not]
  · exact unknown_select registry requested ▸ horder.sublist List.filter_sublist

/-- A registry that holds the first one with each identifier of some analyzers, in the order in which the
identifiers come first, whichever way it is asked: for an analyzer, which may be missing (`find?`), be
replaced (`findD`) or be demanded (`item`), for its identifiers as they are iterated over (`ids`, `order`),
for its analyzers, or for its size. -/
structure Keeps (registry : Registry) (offered : List Analyzer) : Prop where
  find? : ∀ id, registry.find? id = offered.find? (·.id == id)
  findD : ∀ id fallback, registry.findD id fallback = (offered.find? (·.id == id)).getD fallback
  item : ∀ id, registry.item id =
    match offered.find? (·.id == id) with
    | some analyzer => .ok analyzer
    | none => .error ⟨id⟩
  contains : ∀ id, registry.contains id = true ↔ ∃ analyzer ∈ offered, analyzer.id = id
  ids : ∀ id, id ∈ registry.ids ↔ ∃ analyzer ∈ offered, analyzer.id = id
  order : InOrderOf (offered.map Analyzer.id) registry.ids
  analyzers : registry.analyzers = registry.ids.filterMap fun id => offered.find? (·.id == id)
  size : registry.size = registry.ids.length

theorem keeps_calledAll (registry : Registry) (calls : List Analyzer) :
    (registry.calledAll calls).Keeps (registry.analyzers ++ calls) := by
  have hfind := find?_calledAll registry calls
  have hids : ∀ id, id ∈ (registry.calledAll calls).ids ↔
      ∃ analyzer ∈ registry.analyzers ++ calls, analyzer.id = id := by
    intro id
    rw [ids_calledAll, List.mem_eraseDups, ids, ← List.map_append, List.mem_map]
  refine ⟨hfind, fun id fallback => ?_, fun id => ?_, fun id => contains_iff.trans (hids id), hids,
    ?_, ?_, ?_⟩
  · rw [Registry.findD, hfind]
  · rw [← hfind id]
    rfl
  · rw [ids_calledAll, List.map_append]
    exact Repeats.inOrderOf_eraseDups _
  · rw [← funext hfind, filterMap_ids]
  · rw [Registry.size, Registry.ids, List.length_map]

/-- After any calls to register analyzers the registry holds the first analyzer that was registered with each
identifier, in the order in which the identifiers were registered first, and whatever it is asked tells of
this. One more call fails exactly if its identifier is taken, and then it changes nothing. A selection takes
the requested identifiers apart into those that are registered and those that are not, each once and in the
order of the request. -/
theorem calls_kept (registry : Registry) (calls : List Analyzer) :
    (registry.calledAll calls).Keeps (registry.analyzers ++ calls) ∧
      (∀ call taken, (registry.calledAll calls).register call = .error taken ↔
        (∃ analyzer ∈ registry.analyzers ++ calls, analyzer.id = call.id) ∧ taken = ⟨call.id⟩) ∧
      (∀ call taken, (registry.calledAll calls).register call = .error taken →
        registry.calledAll (calls ++ [call]) = registry.calledAll calls) ∧
      ∀ requested : List String, (registry.calledAll calls).Splits requested
        ((registry.calledAll calls).select requested).1
        ((registry.calledAll calls).select requested).2 := by
  have hkeeps := keeps_calledAll registry calls
  refine ⟨hkeeps, fun call taken => ?_, fun call taken hrefused => ?_, splits_select _⟩
  · rw [register_eq_error_iff, hkeeps.ids]
  · rw [calledAll_concat, called_of_mem (register_eq_error_iff.1 hrefused).1]

end Registry

namespace Analyzer

/-- An analyzer that reports nothing but drafts of its own about the file it was given. -/
def Attributes (analyzer : Analyzer) : Prop :=
  ∀ isFile file text findings, analyzer.analyze isFile file text = .ok findings →
    ∀ finding ∈ findings, ∃ draft : Draft, finding = draft.finding analyzer.id analyzer.category file

theorem attributes_ofRules (id name : String) (category : Category) (appliesTo : SourceFile → Bool)
    (rules : SourceFile → List Char → List Draft) :
    (ofRules id name category appliesTo rules).Attributes := by
  intro isFile file text findings h finding hfinding
  obtain rfl := Except.ok.inj h
  obtain ⟨draft, -, rfl⟩ := List.mem_map.1 hfinding
  exact ⟨draft, rfl⟩

end Analyzer

theorem Rule.TestCoverage.attributes_analyzer : Rule.TestCoverage.analyzer.Attributes := by
  intro isFile file text findings h finding hfinding
  simp only [analyzer] at h
  cases hrules : rules isFile file text with
  | error error =>
    rw [hrules] at h
    cases h
  | ok drafts =>
    rw [hrules] at h
    obtain rfl := Except.ok.inj h
    obtain ⟨draft, -, rfl⟩ := List.mem_map.1 hfinding
    exact ⟨draft, rfl⟩

namespace Analyzer

/-- An analyzer that asks the project for nothing but the expected tests of the file. -/
def AsksForTests (analyzer : Analyzer) : Prop :=
  ∀ (isFile isFile' : FileTest) file text,
    (∀ path ∈ Rule.TestCoverage.expectedTests file, isFile path = isFile' path) →
      analyzer.analyze isFile file text = analyzer.analyze isFile' file text

theorem asksForTests_ofRules (id name : String) (category : Category)
    (appliesTo : SourceFile → Bool) (rules : SourceFile → List Char → List Draft) :
    (ofRules id name category appliesTo rules).AsksForTests :=
  fun _ _ _ _ _ => rfl

end Analyzer

theorem Rule.TestCoverage.asksForTests_analyzer : Rule.TestCoverage.analyzer.AsksForTests := by
  intro isFile isFile' file text h
  have hany : ∀ paths : List Path, (∀ path ∈ paths, isFile path = isFile' path) →
      anyFile isFile paths = anyFile isFile' paths := by
    intro paths hpaths
    induction paths with
    | nil => rfl
    | cons path rest ih =>
      rw [List.forall_mem_cons] at hpaths
      rw [anyFile, anyFile, hpaths.1, ih hpaths.2]
  simp only [analyzer, rules, hany _ h]

open Analyzer (attributes_ofRules asksForTests_ofRules)

theorem attributes_of_mem_bundled {analyzer : Analyzer} (h : analyzer ∈ bundledAnalyzers) :
    analyzer.Attributes := by
  simp only [bundledAnalyzers, List.mem_cons, List.not_mem_nil, or_false] at h
  rcases h with rfl | rfl | rfl | rfl | rfl | rfl | rfl | rfl | rfl | rfl | rfl | rfl
  case inr.inr.inr.inr.inr.inr.inr.inr.inr.inr.inl => exact Rule.TestCoverage.attributes_analyzer
  all_goals exact attributes_ofRules _ _ _ _ _

theorem asksForTests_of_mem_bundled {analyzer : Analyzer} (h : analyzer ∈ bundledAnalyzers) :
    analyzer.AsksForTests := by
  simp only [bundledAnalyzers, List.mem_cons, List.not_mem_nil, or_false] at h
  rcases h with rfl | rfl | rfl | rfl | rfl | rfl | rfl | rfl | rfl | rfl | rfl | rfl
  case inr.inr.inr.inr.inr.inr.inr.inr.inr.inr.inl => exact Rule.TestCoverage.asksForTests_analyzer
  all_goals exact asksForTests_ofRules _ _ _ _ _

/-- The category of a finding tells which of the bundled analyzers has reported it. -/
theorem nodup_categories_bundled : (bundledAnalyzers.map Analyzer.category).Nodup := by
  decide

theorem category_injective_bundled {analyzer other : Analyzer} (h : analyzer ∈ bundledAnalyzers)
    (hother : other ∈ bundledAnalyzers) (hcategory : analyzer.category = other.category) :
    analyzer = other :=
  List.inj_on_of_nodup_map nodup_categories_bundled h hother hcategory

theorem id_injective_bundled {analyzer other : Analyzer} (h : analyzer ∈ bundledAnalyzers)
    (hother : other ∈ bundledAnalyzers) (hid : analyzer.id = other.id) : analyzer = other :=
  List.inj_on_of_nodup_map Registry.bundled.distinct h hother hid

end KotlinAudit
