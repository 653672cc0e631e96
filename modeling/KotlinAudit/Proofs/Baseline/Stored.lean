import KotlinAudit.Baseline.Store
import KotlinAudit.Proofs.Json.Line
import KotlinAudit.Proofs.Metrics.Regular

/-! Baselines and entries of the history as they are stored. A record is read back as it was written,
unless an integer in it has too many digits or a change is not finite. -/
namespace KotlinAudit

open Json (Every EveryField Rounded Finite Spared)
open Record (Checked)

/-! ### Comparisons -/

namespace Comparison

/-- The changes of a comparison. -/
def changes (comparison : Comparison) : Changes := comparison.improved ++ comparison.regressed

/-- The identifiers of a comparison. -/
def ids (comparison : Comparison) : List String := comparison.resolved ++ comparison.newIssues

/-- A comparison as it is made, whatever its identifiers are: no metric changes twice. -/
structure Formed (comparison : Comparison) : Prop where
  improved : (comparison.improved.map Prod.fst).Nodup
  regressed : (comparison.regressed.map Prod.fst).Nodup
  numbers : ∀ change ∈ comparison.changes, change.2.Normal
  names : ∀ change ∈ comparison.changes, Text.Unbroken change.1.toList

/-- A comparison as it is made: no metric changes twice, and texts do not break lines. -/
structure Regular (comparison : Comparison) : Prop where
  improved : (comparison.improved.map Prod.fst).Nodup
  regressed : (comparison.regressed.map Prod.fst).Nodup
  numbers : ∀ change ∈ comparison.changes, change.2.Normal
  names : ∀ change ∈ comparison.changes, Text.Unbroken change.1.toList
  ids : ∀ id ∈ comparison.resolved ++ comparison.newIssues, Text.Unbroken id.toList

theorem Regular.formed {comparison : Comparison} (h : comparison.Regular) : comparison.Formed :=
  ⟨h.improved, h.regressed, h.numbers, h.names⟩

theorem value?_changesJson {changes : Changes} (h : (changes.map Prod.fst).Nodup) :
    (Record.mapping some Record.storedFloat (changesJson changes)).value? = some changes :=
  Record.value?_mapping id .float h (fun _ _ => rfl) fun _ _ => rfl

theorem value?_texts (values : List String) :
    (Record.list Record.text (.texts values)).value? = some values :=
  Record.value?_list .text fun _ _ => rfl

/-- A comparison is read from its record. -/
theorem value?_readWith {comparison : Comparison} (h : comparison.Formed) :
    (Comparison.readWith Record.storedFloat comparison.toJson).value? = some comparison := by
  unfold Comparison.readWith Comparison.toJson
  rw [Record.value?_fields (by simp)]
  simp [List.lookup_cons, value?_changesJson h.improved, value?_changesJson h.regressed, value?_texts]

theorem every_changesJson {holds : Json → Prop} {changes : Changes} :
    Every holds (changesJson changes) ↔
      ∀ change ∈ changes, holds (.text change.1) ∧ holds (.float change.2) := by
  rw [changesJson, Every, Json.everyField_iff, List.forall_mem_map]
  rfl

theorem every_texts {holds : Json → Prop} {values : List String} :
    Every holds (.texts values) ↔ ∀ value ∈ values, holds (.text value) := by
  rw [Json.texts, Every, Json.everyItem_iff, List.forall_mem_map]
  rfl

theorem every_toJson {holds : Json → Prop} {comparison : Comparison}
    (hkeys : ∀ key ∈ ["improved", "regressed", "resolved", "new_issues"], holds (.text key)) :
    Every holds comparison.toJson ↔
      (∀ change ∈ comparison.changes, holds (.text change.1) ∧ holds (.float change.2)) ∧
        ∀ id ∈ comparison.resolved ++ comparison.newIssues, holds (.text id) := by
  simp only [List.forall_mem_cons] at hkeys
  obtain ⟨h₁, h₂, h₃, h₄, -⟩ := hkeys
  simp only [toJson, Every, EveryField, every_changesJson, every_texts, changes,
    List.forall_mem_append, h₁, h₂, h₃, h₄, true_and, and_true, and_assoc]

theorem rereadFields_changes (changes : Changes) :
    Json.rereadFields (changes.map fun (name, value) => (name, .float value)) =
      .ok (changes.map fun change =>
        (change.1, if change.2.isFinite then .float change.2 else .null)) := by
  induction changes with
  | nil => rfl
  | cons change rest ih =>
    rw [List.map_cons, Json.rereadFields, ih]
    rfl

/-- Changes that have been read back are finite. -/
theorem isFinite_of_value?_changes {changes read : Changes}
    (h : (Record.mapping some Record.storedFloat (.object (changes.map fun change =>
      (change.1, if change.2.isFinite then .float change.2 else .null)))).value? = some read) :
    ∀ change ∈ changes, change.2.isFinite = true := by
  intro change hchange
  rw [Record.mapping, List.map_map, Checked.value?_map] at h
  obtain ⟨pairs, hpairs, -⟩ := Option.map_eq_some_iff.1 h
  obtain ⟨pair, hpair⟩ := Checked.exists_of_value?_all hpairs _ (List.mem_map_of_mem hchange)
  by_cases hfinite : change.2.isFinite = true
  · exact hfinite
  · simp [hfinite, Record.storedFloat, Record.float] at hpair

theorem depth_changesJson (changes : Changes) : Json.depth (changesJson changes) ≤ 1 := by
  rw [changesJson, Json.depth, Nat.succ_le_succ_iff]
  refine Json.depthFields_le fun field hfield => ?_
  obtain ⟨change, -, rfl⟩ := List.mem_map.1 hfield
  exact Nat.zero_le _

theorem depth_toJson (comparison : Comparison) : Json.depth comparison.toJson ≤ 2 := by
  rw [toJson, Json.depth, Nat.succ_le_succ_iff]
  refine Json.depthFields_le ?_
  simp only [List.forall_mem_cons]
  exact ⟨depth_changesJson _, depth_changesJson _, Json.depth_texts _, Json.depth_texts _, nofun⟩

/-- A comparison that has been read back has finite changes. -/
theorem isFinite_of_value? {comparison read : Comparison} {found : Json}
    (hreread : Json.reread comparison.toJson = .ok found)
    (h : (Comparison.readWith Record.storedFloat found).value? = some read) :
    ∀ change ∈ comparison.changes, change.2.isFinite = true := by
  obtain ⟨fields, hfields, rfl⟩ := Json.reread_object_eq_ok hreread
  obtain ⟨improved, rest₁, himproved, hrest₁, rfl⟩ := Json.rereadFields_cons_eq_ok hfields
  obtain ⟨regressed, rest₂, hregressed, hrest₂, rfl⟩ := Json.rereadFields_cons_eq_ok hrest₁
  obtain ⟨resolved, rest₃, hresolved, hrest₃, rfl⟩ := Json.rereadFields_cons_eq_ok hrest₂
  obtain ⟨newIssues, rest₄, hnew, hrest₄, rfl⟩ := Json.rereadFields_cons_eq_ok hrest₃
  cases hrest₄
  rw [changesJson, Json.reread, rereadFields_changes] at himproved hregressed
  cases himproved
  cases hregressed
  unfold Comparison.readWith at h
  rw [Record.value?_fields (by simp)] at h
  simp only [Checked.value?_seq, Checked.value?_map, Record.Fields.value?_withDefault] at h
  obtain ⟨toLast, hthird, -⟩ := Option.bind_eq_some_iff.1 h
  obtain ⟨toThird, hsecond, -⟩ := Option.bind_eq_some_iff.1 hthird
  obtain ⟨toSecond, hfirst, hregressed⟩ := Option.bind_eq_some_iff.1 hsecond
  obtain ⟨first, himproved, -⟩ := Option.map_eq_some_iff.1 hfirst
  obtain ⟨second, hregressed, -⟩ := Option.map_eq_some_iff.1 hregressed
  rw [changes, List.forall_mem_append]
  exact ⟨isFinite_of_value?_changes himproved, isFinite_of_value?_changes hregressed⟩

end Comparison

/-! ### Baselines -/

namespace Baseline

/-- A baseline of metrics of findings and a set of identifiers. -/
structure Regular (baseline : Baseline) : Prop where
  metrics : baseline.metrics.Regular
  ids : Text.sortedSet baseline.findingIds = baseline.findingIds

/-- A baseline that can be read back: none of its integers has too many digits. -/
def Legible (baseline : Baseline) : Prop :=
  ∀ value ∈ baseline.timestamp :: baseline.metrics.integers, Json.Brief value

instance (baseline : Baseline) : Decidable baseline.Legible := List.decidableBAll _ _

theorem every_toJson {holds : Json → Prop} {baseline : Baseline}
    (hkeys : ∀ key ∈ ["timestamp", "metrics", "finding_ids"], holds (.text key)) :
    Every holds baseline.toJson ↔ holds (.int baseline.timestamp) ∧
      Every holds baseline.metrics.toJson ∧ ∀ id ∈ baseline.findingIds, holds (.text id) := by
  simp only [List.forall_mem_cons] at hkeys
  obtain ⟨h₁, h₂, h₃, -⟩ := hkeys
  simp only [toJson, Every, EveryField, Comparison.every_texts, h₁, h₂, h₃, true_and, and_true]

theorem every_rounded {baseline : Baseline} (h : baseline.Regular) :
    Every Rounded baseline.toJson := by
  refine (every_toJson fun _ _ => trivial).2 ⟨trivial, ?_, fun _ _ => trivial⟩
  exact (Metrics.every_toJson fun _ _ => trivial).2
    ⟨fun _ _ => trivial, fun number hnumber => (h.metrics.finite number hnumber).2⟩

theorem every_finite {baseline : Baseline} (h : baseline.Regular) :
    Every Finite baseline.toJson := by
  refine (every_toJson fun _ _ => trivial).2 ⟨trivial, ?_, fun _ _ => trivial⟩
  exact (Metrics.every_toJson fun _ _ => trivial).2
    ⟨fun _ _ => trivial, fun number hnumber => (h.metrics.finite number hnumber).1⟩

theorem every_legible_iff {baseline : Baseline} (h : baseline.Regular) :
    Every Json.Legible baseline.toJson ↔ baseline.Legible := by
  rw [every_toJson fun _ _ => trivial, Metrics.every_toJson fun _ _ => trivial, Legible,
    List.forall_mem_cons]
  constructor
  · rintro ⟨htimestamp, ⟨hintegers, -⟩, -⟩
    exact ⟨htimestamp, hintegers⟩
  · rintro ⟨htimestamp, hintegers⟩
    exact ⟨htimestamp, ⟨hintegers, fun number hnumber => (h.metrics.finite number hnumber).1⟩,
      fun _ _ => trivial⟩

theorem value?_readStored {baseline : Baseline} (h : baseline.Regular) :
    (readStored baseline.toJson).value? = some baseline := by
  unfold readStored readWith toJson
  rw [Record.value?_fields (by simp)]
  simp [List.lookup_cons, Metrics.value?_readWith h.metrics, Comparison.value?_texts, Record.int, h.ids]

theorem depth_toJson (baseline : Baseline) : Json.depth baseline.toJson ≤ 3 := by
  rw [toJson, Json.depth, Nat.succ_le_succ_iff]
  refine Json.depthFields_le ?_
  simp only [List.forall_mem_cons]
  exact ⟨Nat.zero_le _, Metrics.depth_toJson _, (Json.depth_texts _).trans (by decide), nofun⟩

/-- A baseline is read from its document, unless one of its integers has too many digits. -/
theorem ofText_document {baseline : Baseline} (h : baseline.Regular) :
    ofText baseline.document.toList =
      if baseline.Legible then .ok baseline else .error (.invalid 1) := by
  have hread : Json.read .record baseline.document.toList = Json.reread baseline.toJson := by
    rw [document, String.toList_ofList]
    exact Json.read_indented (every_rounded h) (baseline.depth_toJson.trans (by decide))
  unfold ofText
  rw [hread]
  split_ifs with hlegible
  · have hvalue := value?_readStored h
    rw [Json.reread_of_legible ((every_legible_iff h).2 hlegible)]
    dsimp only
    cases hstored : readStored baseline.toJson with
    | valid found =>
      rw [hstored] at hvalue
      cases hvalue
      rfl
    | faulty faults =>
      rw [hstored] at hvalue
      cases hvalue
  · cases hreread : Json.reread baseline.toJson with
    | error fault => rfl
    | ok found =>
      exact absurd ((every_legible_iff h).1 (Json.legible_of_reread _ (every_finite h) _ hreread))
        hlegible

theorem withLineFeeds_document {baseline : Baseline} (h : baseline.Regular) :
    Text.withLineFeeds baseline.document.toList = baseline.document.toList := by
  refine Text.withLineFeeds_eq ?_
  rw [document, String.toList_ofList]
  exact Json.return_notMem_indented 0 (every_rounded h)

end Baseline

/-! ### Entries of the history -/

namespace HistoryEntry

/-- The changes of an entry, none where it has no comparison. -/
def changes (entry : HistoryEntry) : Changes :=
  (entry.comparison.map Comparison.changes).getD []

/-- The identifiers of an entry, those of its comparison too. -/
def ids (entry : HistoryEntry) : List String :=
  entry.findingIds ++ (entry.comparison.map Comparison.ids).getD []

/-- An entry as it is made, whatever its identifiers are. -/
structure Formed (entry : HistoryEntry) : Prop where
  metrics : entry.metrics.Regular
  comparison : ∀ comparison, entry.comparison = some comparison → comparison.Formed

/-- An entry as it is made. -/
structure Regular (entry : HistoryEntry) : Prop where
  metrics : entry.metrics.Regular
  ids : ∀ id ∈ entry.findingIds, Text.Unbroken id.toList
  comparison : ∀ comparison, entry.comparison = some comparison → comparison.Regular

theorem Regular.formed {entry : HistoryEntry} (h : entry.Regular) : entry.Formed :=
  ⟨h.metrics, fun comparison hcomparison => (h.comparison comparison hcomparison).formed⟩

/-- An entry that can be read back: none of its integers has too many digits, and its changes are
finite. -/
structure Legible (entry : HistoryEntry) : Prop where
  integers : ∀ value ∈ entry.timestamp :: entry.findingCount :: entry.metrics.integers,
    Json.Brief value
  changes : ∀ change ∈ entry.changes, change.2.isFinite = true

instance (entry : HistoryEntry) : Decidable entry.Legible :=
  decidable_of_iff
    ((∀ value ∈ entry.timestamp :: entry.findingCount :: entry.metrics.integers, Json.Brief value) ∧
      ∀ change ∈ entry.changes, change.2.isFinite = true)
    ⟨fun h => ⟨h.1, h.2⟩, fun h => ⟨h.integers, h.changes⟩⟩

theorem every_toJson {holds : Json → Prop} {entry : HistoryEntry}
    (hkeys : ∀ key ∈ ["timestamp", "metrics", "finding_count", "finding_ids", "comparison"],
      holds (.text key)) :
    Every holds entry.toJson ↔ holds (.int entry.timestamp) ∧ Every holds entry.metrics.toJson ∧
      holds (.int entry.findingCount) ∧ (∀ id ∈ entry.findingIds, holds (.text id)) ∧
        Every holds (.optional Comparison.toJson entry.comparison) := by
  simp only [List.forall_mem_cons] at hkeys
  obtain ⟨h₁, h₂, h₃, h₄, h₅, -⟩ := hkeys
  simp only [toJson, Every, EveryField, Comparison.every_texts, h₁, h₂, h₃, h₄, h₅, true_and,
    and_true]

/-- Something holds of every part of an entry's comparison. -/
theorem every_comparison {holds : Json → Prop} {entry : HistoryEntry} (hnull : holds .null)
    (h : ∀ comparison, entry.comparison = some comparison → Every holds comparison.toJson) :
    Every holds (.optional Comparison.toJson entry.comparison) := by
  cases hcomparison : entry.comparison with
  | none => exact hnull
  | some comparison => exact h comparison hcomparison

theorem every_rounded {entry : HistoryEntry} (h : entry.Formed) : Every Rounded entry.toJson := by
  refine (every_toJson fun _ _ => trivial).2 ⟨trivial, ?_, trivial, fun _ _ => trivial, ?_⟩
  · exact (Metrics.every_toJson fun _ _ => trivial).2
      ⟨fun _ _ => trivial, fun number hnumber => (h.metrics.finite number hnumber).2⟩
  · refine every_comparison trivial fun comparison hcomparison => ?_
    exact (Comparison.every_toJson fun _ _ => trivial).2
      ⟨fun change hchange => ⟨trivial, (h.comparison _ hcomparison).numbers change hchange⟩,
        fun _ _ => trivial⟩

/-- An entry's line has no line break that stands in an identifier as it is. -/
def OneLine (entry : HistoryEntry) : Prop := ∀ id ∈ entry.ids, Spared Text.isLineBreak (.text id)

instance (entry : HistoryEntry) : Decidable entry.OneLine := List.decidableBAll _ _

/-- Only the identifiers of an entry can break its line. -/
theorem every_spared_iff {entry : HistoryEntry} (h : entry.Formed) :
    Every (Spared Text.isLineBreak) entry.toJson ↔ entry.OneLine := by
  have hmetrics : Every (Spared Text.isLineBreak) entry.metrics.toJson :=
    (Metrics.every_toJson (by decide)).2 ⟨fun _ _ => trivial, fun _ _ => trivial⟩
  rw [every_toJson (by decide), OneLine, ids, List.forall_mem_append]
  constructor
  · rintro ⟨-, -, -, hids, hcomparison⟩
    refine ⟨hids, ?_⟩
    cases hentry : entry.comparison with
    | none => exact nofun
    | some comparison =>
      rw [hentry] at hcomparison
      exact ((Comparison.every_toJson (by decide)).1 hcomparison).2
  · rintro ⟨hids, hothers⟩
    refine ⟨trivial, hmetrics, trivial, hids, every_comparison trivial fun comparison hentry => ?_⟩
    rw [hentry] at hothers
    exact (Comparison.every_toJson (by decide)).2
      ⟨fun change hchange => ⟨fun c hc _ => (h.comparison _ hentry).names change hchange c hc, trivial⟩,
        hothers⟩

/-- An entry whose texts do not break lines is written on one line. -/
theorem Regular.oneLine {entry : HistoryEntry} (h : entry.Regular) : entry.OneLine := by
  rw [OneLine, HistoryEntry.ids, List.forall_mem_append]
  refine ⟨fun id hid c hc _ => h.ids id hid c hc, ?_⟩
  cases hentry : entry.comparison with
  | none => exact nofun
  | some comparison => exact fun id hid c hc _ => (h.comparison _ hentry).ids id hid c hc

theorem every_legible {entry : HistoryEntry} (h : entry.Formed) (hlegible : entry.Legible) :
    Every Json.Legible entry.toJson := by
  have hintegers := hlegible.integers
  rw [List.forall_mem_cons, List.forall_mem_cons] at hintegers
  obtain ⟨htimestamp, hcount, hmetrics⟩ := hintegers
  refine (every_toJson fun _ _ => trivial).2
    ⟨htimestamp, ?_, hcount, fun _ _ => trivial, ?_⟩
  · exact (Metrics.every_toJson fun _ _ => trivial).2
      ⟨hmetrics, fun number hnumber => (h.metrics.finite number hnumber).1⟩
  · refine every_comparison trivial fun comparison hcomparison => ?_
    refine (Comparison.every_toJson fun _ _ => trivial).2
      ⟨fun change hchange => ⟨trivial, hlegible.changes change ?_⟩, fun _ _ => trivial⟩
    rw [changes, hcomparison]
    exact hchange

theorem depth_toJson (entry : HistoryEntry) : Json.depth entry.toJson ≤ 3 := by
  have hcomparison : Json.depth (.optional Comparison.toJson entry.comparison) ≤ 2 := by
    cases entry.comparison with
    | none => exact Nat.zero_le _
    | some comparison => exact comparison.depth_toJson
  rw [toJson, Json.depth, Nat.succ_le_succ_iff]
  refine Json.depthFields_le ?_
  simp only [List.forall_mem_cons]
  exact ⟨Nat.zero_le _, Metrics.depth_toJson _, Nat.zero_le _,
    (Json.depth_texts _).trans (by decide), hcomparison, nofun⟩

theorem value?_nullable {comparison : Option Comparison}
    (h : ∀ each, comparison = some each → each.Formed) :
    (Record.nullable (Comparison.readWith Record.storedFloat)
      (.optional Comparison.toJson comparison)).value? = some comparison := by
  cases comparison with
  | none => rfl
  | some comparison =>
    change (some <$> Comparison.readWith Record.storedFloat comparison.toJson).value? = _
    rw [Checked.value?_map, Comparison.value?_readWith (h comparison rfl)]
    rfl

theorem value?_readStored {entry : HistoryEntry} (h : entry.Formed) :
    (readStored entry.toJson).value? = some entry := by
  unfold readStored toJson
  rw [Record.value?_fields (by simp)]
  simp [List.lookup_cons, Metrics.value?_readWith h.metrics, Comparison.value?_texts, Record.int,
    value?_nullable h.comparison]

/-- What has been read back can be read back. -/
theorem legible_of_value? {entry read : HistoryEntry} {found : Json} (h : entry.Formed)
    (hreread : Json.reread entry.toJson = .ok found)
    (hvalue : (readStored found).value? = some read) : entry.Legible := by
  obtain ⟨fields, hfields, rfl⟩ := Json.reread_object_eq_ok hreread
  obtain ⟨timestamp, rest₁, htimestamp, hrest₁, rfl⟩ := Json.rereadFields_cons_eq_ok hfields
  obtain ⟨metrics, rest₂, hmetrics, hrest₂, rfl⟩ := Json.rereadFields_cons_eq_ok hrest₁
  obtain ⟨count, rest₃, hcount, hrest₃, rfl⟩ := Json.rereadFields_cons_eq_ok hrest₂
  obtain ⟨ids, rest₄, hids, hrest₄, rfl⟩ := Json.rereadFields_cons_eq_ok hrest₃
  obtain ⟨comparison, rest₅, hcomparison, hrest₅, rfl⟩ := Json.rereadFields_cons_eq_ok hrest₄
  cases hrest₅
  refine ⟨?_, ?_⟩
  · have hintegers := (Metrics.every_toJson fun _ _ => trivial).1 (Json.legible_of_reread _
      ((Metrics.every_toJson fun _ _ => trivial).2 ⟨fun _ _ => trivial, fun number hnumber =>
        (h.metrics.finite number hnumber).1⟩) _ hmetrics)
    rw [List.forall_mem_cons, List.forall_mem_cons]
    exact ⟨Json.legible_of_reread (.int _) trivial _ htimestamp,
      Json.legible_of_reread (.int _) trivial _ hcount, hintegers.1⟩
  · unfold readStored at hvalue
    rw [Record.value?_fields (by simp)] at hvalue
    simp only [Checked.value?_seq, Checked.value?_map, Record.Fields.value?_withDefault] at hvalue
    obtain ⟨before, -, hlast⟩ := Option.bind_eq_some_iff.1 hvalue
    obtain ⟨last, hlast, -⟩ := Option.map_eq_some_iff.1 hlast
    unfold changes
    cases hentry : entry.comparison with
    | none => exact nofun
    | some made =>
      rw [hentry] at hcomparison
      change (Record.nullable (Comparison.readWith Record.storedFloat) comparison).value? =
        some last at hlast
      obtain ⟨parts, -, rfl⟩ := Json.reread_object_eq_ok hcomparison
      change (some <$> Comparison.readWith Record.storedFloat (.object parts)).value? = _ at hlast
      rw [Checked.value?_map] at hlast
      obtain ⟨read, hread, -⟩ := Option.map_eq_some_iff.1 hlast
      exact Comparison.isFinite_of_value? hcomparison hread

/-- An entry is read from its line exactly if it can be read back. -/
theorem ofLine?_compact {entry : HistoryEntry} (h : entry.Formed) :
    ofLine? entry.toJson.compact = if entry.Legible then some entry else none := by
  have hread : Json.read .record entry.toJson.compact = Json.reread entry.toJson :=
    Json.read_compact (every_rounded h) (entry.depth_toJson.trans (by decide))
  unfold ofLine?
  rw [hread]
  split_ifs with hlegible
  · rw [Json.reread_of_legible (every_legible h hlegible)]
    exact value?_readStored h
  · cases hreread : Json.reread entry.toJson with
    | error fault => rfl
    | ok found =>
      change (readStored found).value? = none
      rw [Option.eq_none_iff_forall_not_mem]
      exact fun read hvalue => hlegible (legible_of_value? h hreread hvalue)

end HistoryEntry

/-! ### The history as a text -/

namespace HistoryLine

/-- The text of a history. -/
def written (entries : List HistoryEntry) : List Char :=
  entries.flatMap fun entry => entry.line.toList

theorem written_eq (entries : List HistoryEntry) :
    written entries = (entries.map (·.toJson.compact)).flatMap fun line => line ++ ['\n'] := by
  rw [written, List.flatMap_map]
  simp only [HistoryEntry.line, String.toList_ofList]

/-- The entry of a line that is not blank. -/
def entryIn (line : Text.Line) : Option HistoryEntry :=
  if (Text.trim line).isEmpty then none else HistoryEntry.ofLine? line

theorem filterMap_ofText (text : List Char) :
    (ofText text).filterMap entry? = (Text.lines text).filterMap entryIn := by
  have hlines : (Text.numberedLines text).map Prod.snd = Text.lines text := by
    rw [Text.numberedLines, List.map_map]
    exact List.zipIdx_map_fst 0 _
  rw [← hlines, List.filterMap_map, ofText, List.filterMap_filterMap]
  congr 1
  funext ⟨number, line⟩
  simp only [Function.comp_apply, entryIn]
  split_ifs
  · rfl
  · cases HistoryEntry.ofLine? line <;> rfl

theorem entryIn_compact {entry : HistoryEntry} (h : entry.Formed) :
    entryIn entry.toJson.compact = if entry.Legible then some entry else none := by
  have hmem : '\x7b' ∈ entry.toJson.compact := List.mem_cons_self
  rw [entryIn, Text.isEmpty_trim hmem (by decide), if_neg Bool.false_ne_true,
    HistoryEntry.ofLine?_compact h]

theorem unbroken_compact_iff {entry : HistoryEntry} (h : entry.Formed) :
    Text.Unbroken entry.toJson.compact ↔ entry.OneLine := by
  rw [← HistoryEntry.every_spared_iff h]
  exact ⟨Json.spared_of_free_compact, Json.unbroken_compact (HistoryEntry.every_rounded h)⟩

/-- From the text of a history those of its entries are read that can be read back. -/
theorem filterMap_ofText_written {entries : List HistoryEntry}
    (hformed : ∀ entry ∈ entries, entry.Formed) (hline : ∀ entry ∈ entries, entry.OneLine) :
    (ofText (Text.withLineFeeds (written entries))).filterMap entry? =
      entries.filter fun entry => entry.Legible := by
  have hlines : ∀ line ∈ entries.map (·.toJson.compact), Text.Unbroken line := by
    rw [List.forall_mem_map]
    exact fun entry hentry => (unbroken_compact_iff (hformed entry hentry)).2 (hline entry hentry)
  have hfeeds : Text.withLineFeeds (written entries) = written entries := by
    refine Text.withLineFeeds_eq fun hmem => ?_
    rw [written_eq] at hmem
    obtain ⟨line, hline, hmem⟩ := List.mem_flatMap.1 hmem
    rcases List.mem_append.1 hmem with hmem | hmem
    · exact Text.notMem_of_unbroken (hlines line hline) hmem
    · exact absurd (List.mem_singleton.1 hmem) (by decide)
  rw [hfeeds, filterMap_ofText, written_eq, Text.lines_flatMap hlines, List.filterMap_map,
    ← List.filterMap_eq_filter]
  refine List.filterMap_congr fun entry hentry => ?_
  rw [Function.comp_apply, entryIn_compact (hformed entry hentry), Option.guard]
  simp only [decide_eq_true_eq]

end HistoryLine

end KotlinAudit
