import KotlinAudit.Bundled
import KotlinAudit.Proofs.Finding.Identifier
import KotlinAudit.Proofs.Outcome
import KotlinAudit.Proofs.Rule.Exhibit
import KotlinAudit.Proofs.Source.Declaration
import Mathlib.Data.List.Nodup

/-! The rules of the bundled analyzers. Whatever an analyzer drafts belongs to one of its rules, reports a
line of the file and shows what the rule shows; within a file the title of a draft can be told from its
rule and its line. -/
namespace KotlinAudit.Rule

/-- The titles that rules have at a line. -/
abbrev Titles := Nat → List (String × String)

/-- A draft under a title that its rule has at its line; it shows what its rule shows. -/
structure Told (titles : Titles) (lines : List Text.Line) (draft : Draft) : Prop
    extends Faithful lines draft where
  title : (draft.rule, draft.title) ∈ titles draft.line

/-- Drafts about the lines of a file, all told by their rules. -/
def Listed (titles : Titles) (lines : List Text.Line) (drafts : List Draft) : Prop :=
  ∀ draft ∈ drafts, Told titles lines draft

namespace Listed

variable {titles : Titles} {lines : List Text.Line} {first second : List Draft} {draft : Draft}
  {α : Type} {items : List α}

theorem nil : Listed titles lines [] := fun _ h => absurd h List.not_mem_nil

theorem one (h : Told titles lines draft) : Listed titles lines [draft] :=
  List.forall_mem_singleton.2 h

theorem append (h : Listed titles lines first) (hsecond : Listed titles lines second) :
    Listed titles lines (first ++ second) := List.forall_mem_append.2 ⟨h, hsecond⟩

theorem ite {condition : Prop} [Decidable condition] (h : Listed titles lines first)
    (hsecond : Listed titles lines second) :
    Listed titles lines (if condition then first else second) := by
  split
  · exact h
  · exact hsecond

/-- A draft that is made under a condition. -/
theorem toList_ite {condition : Prop} [Decidable condition] (h : Told titles lines draft) :
    Listed titles lines (if condition then none else some draft : Option Draft).toList := by
  split
  · exact nil
  · exact one h

theorem flatMap {step : α → List Draft} (h : ∀ item ∈ items, Listed titles lines (step item)) :
    Listed titles lines (items.flatMap step) := by
  intro draft hdraft
  obtain ⟨item, hitem, hin⟩ := List.mem_flatMap.1 hdraft
  exact h item hitem draft hin

theorem filterMap {step : α → Option Draft}
    (h : ∀ item ∈ items, Listed titles lines (step item).toList) :
    Listed titles lines (items.filterMap step) := by
  intro draft hdraft
  obtain ⟨item, hitem, hin⟩ := List.mem_filterMap.1 hdraft
  exact h item hitem draft (Option.mem_toList.2 hin)

/-- A rule that goes over the lines of a file. -/
theorem zipIdx {step : Text.Line × Nat → List Draft} (h : ∀ index line, lines[index]? = some line →
    Listed titles lines (step (line, index))) : Listed titles lines (lines.zipIdx.flatMap step) :=
  .flatMap fun _ hitem => h _ _ (List.mem_zipIdx_iff_getElem?.1 hitem)

theorem zipIdx? {step : Text.Line × Nat → Option Draft} (h : ∀ index line, lines[index]? = some line →
    Listed titles lines (step (line, index)).toList) :
    Listed titles lines (lines.zipIdx.filterMap step) :=
  .filterMap fun _ hitem => h _ _ (List.mem_zipIdx_iff_getElem?.1 hitem)

end Listed

/-! ### Rules whose titles are fixed -/

section Architecture
open Architecture

def Architecture.titles : List (String × String) :=
  [("android-import", "Android Framework Import in Domain Layer"),
    ("use-case-surface", "Use Case Exposes Multiple Public Functions"),
    ("exposed-mutable-state", "MutableStateFlow Exposed from ViewModel")]

theorem Architecture.listed_onLines {rule : Nat → Text.Line → Option Draft} {lines : List Text.Line}
    (h : ∀ index line, lines[index]? = some line →
      Listed (fun _ => titles) lines (rule (index + 1) (Text.trim line)).toList) :
    Listed (fun _ => titles) lines (onLines rule lines) := .zipIdx? h

theorem Architecture.listed_useCaseSurface (lines : List Text.Line) :
    Listed (fun _ => titles) lines (useCaseSurface lines) := by
  unfold useCaseSurface
  split
  · exact .nil
  · next index hindex =>
    obtain ⟨hlt, -⟩ := List.findIdx?_eq_some_iff_getElem.1 hindex
    exact .ite .nil (.one ⟨.of_excerpt hlt rfl rfl rfl, by simp [titles]⟩)

theorem Architecture.listed_rules (file : SourceFile) (text : List Char) :
    Listed (fun _ => titles) (Text.lines text) (rules file text) := by
  unfold rules
  dsimp only
  split
  · refine .append (listed_onLines fun index line hline => ?_) (.ite (listed_useCaseSurface _) .nil)
    unfold androidImport
    split
    · exact .one ⟨.of_line hline rfl rfl rfl, by simp [titles]⟩
    · exact .nil
  · refine .ite (listed_onLines fun index line hline => ?_) .nil
    unfold exposedState
    split
    · exact .one ⟨.of_line hline rfl rfl rfl, by simp [titles]⟩
    · exact .nil
  · exact .nil

end Architecture

section Naming
open Naming

def Naming.titles : List (String × String) :=
  [("file-name", "File Name Does Not Follow PascalCase Convention"),
    ("class-name", "Class Name Does Not Follow PascalCase Convention"),
    ("function-name", "Function Name Does Not Follow camelCase Convention"),
    ("constant-name", "Constant Does Not Follow UPPER_SNAKE_CASE Convention")]

theorem Naming.listed_lineDraft (text : List Char) {lines : List Text.Line} {index : Nat}
    {line : Text.Line} (hline : lines[index]? = some line) :
    Listed (fun _ => titles) lines (lineDraft text (index + 1) (Text.trim line)).toList := by
  unfold lineDraft
  split
  · exact .nil
  split
  · unfold typeName
    split
    · exact .nil
    · exact .one ⟨.of_line hline rfl rfl rfl, by simp [titles]⟩
  split
  · unfold functionName
    split
    · exact .nil
    split
    · exact .nil
    · exact .one ⟨.of_line hline rfl rfl rfl, by simp [titles]⟩
  split
  · unfold constantName
    split
    · exact .nil
    · exact .one ⟨.of_line hline rfl rfl rfl, by simp [titles]⟩
  · exact .nil

theorem Naming.listed_rules (file : SourceFile) (text : List Char) :
    Listed (fun _ => titles) (Text.lines text) (rules file text) := by
  refine .append ?_ (.zipIdx? fun _ _ hline => listed_lineDraft text hline)
  unfold fileName
  split
  · exact .nil
  split
  · exact .nil
  · exact .one ⟨.of_nothing rfl rfl rfl, by simp [titles]⟩

end Naming

section ErrorHandling
open ErrorHandling

def ErrorHandling.titles : List (String × String) :=
  [("swallowed-exception", "Empty or Logging-Only Catch Block"),
    ("generic-catch", "Generic Exception Catch")]

theorem ErrorHandling.listed_rules (text : List Char) :
    Listed (fun _ => titles) (Text.lines text) (rules text) := by
  refine .zipIdx fun index line hline => ?_
  have hlt := (List.getElem?_eq_some_iff.1 hline).1
  change Listed _ _ (lineDrafts _ _ _)
  unfold lineDrafts
  split
  · exact .nil
  · exact .append (.ite (.one ⟨.of_excerpt hlt rfl rfl rfl, by simp [titles, swallowed]⟩) .nil)
      (.ite (.one ⟨.of_excerpt hlt rfl rfl rfl, by simp [titles, genericCatch]⟩) .nil)

end ErrorHandling

section StateManagement
open StateManagement

def StateManagement.titles : List (String × String) :=
  [("direct-state-mutation", "Direct State Mutation Instead of update \x7b \x7d"),
    ("global-scope", "Coroutine Launch Not Using viewModelScope")]

theorem StateManagement.listed_rules (text : List Char) :
    Listed (fun _ => titles) (Text.lines text) (rules text) := by
  refine .zipIdx fun index line hline => ?_
  unfold lineDrafts
  refine .ite .nil (.append ?_ ?_)
  · cases directMutation.search? _ with
    | none => exact .nil
    | some found => exact .one ⟨.of_line hline rfl rfl rfl, by simp [titles, mutationDraft]⟩
  · cases globalScope.search? _ with
    | none => exact .nil
    | some found => exact .one ⟨.of_line hline rfl rfl rfl, by simp [titles, scopeDraft]⟩

end StateManagement

section Compose
open Compose

def Compose.titles : List (String × String) :=
  [("missing-modifier", "Composable Missing Modifier Parameter"),
    ("modifier-default", "Modifier Parameter Missing Default Value"),
    ("nested-lazy-list", "Nested LazyColumn Detected"),
    ("items-key", "LazyColumn items() Missing key Parameter"),
    ("remember-computation", "Expensive Computation Not Wrapped in remember")]

theorem Compose.listed_modifierDrafts {lines : List Text.Line} {line : Text.Line}
    {composable : Composable} (hline : lines[composable.index]? = some line) :
    Listed (fun _ => titles) lines (modifierDrafts lines line composable) := by
  unfold modifierDrafts
  refine .ite .nil ?_
  dsimp only
  split
  · exact .one ⟨.of_line hline rfl rfl rfl, by simp [titles, missingModifier]⟩
  · exact .ite (.one ⟨.of_line hline rfl rfl rfl, by simp [titles, modifierDefault]⟩) .nil

theorem Compose.listed_itemsLine {lines : List Text.Line} {report : ListReport}
    (h : Listed (fun _ => titles) lines report.drafts) {index : Nat} {line : Text.Line}
    (hline : lines[index]? = some line) :
    Listed (fun _ => titles) lines (match itemsCall.search? line with
      | none => report
      | some found =>
        if report.keyless.contains index then report
        else if keyArgument.occursIn (Source.parenthesized lines index found.start.position) then report
        else ⟨report.drafts ++ [missingKey (index + 1) (String.ofList (Text.trim line))], report.nested,
          index :: report.keyless⟩ : ListReport).drafts := by
  split
  · exact h
  split
  · exact h
  split
  · exact h
  · exact h.append (.one ⟨.of_line hline rfl rfl rfl, by simp [titles, missingKey]⟩)

theorem Compose.listed_listLine {lines : List Text.Line} {report : ListReport}
    (h : Listed (fun _ => titles) lines report.drafts) {index : Nat} {line : Text.Line}
    (hline : lines[index]? = some line) :
    Listed (fun _ => titles) lines (listLine lines report index line).drafts := by
  refine listed_itemsLine ?_ hline
  split
  · exact h.append (.one ⟨.of_line hline rfl rfl rfl, by simp [titles, nestedLazyList]⟩)
  · exact h

theorem Compose.listed_listDrafts (lines : List Text.Line) (body : List (Nat × Text.Line)) :
    Listed (fun _ => titles) lines (listDrafts lines body) := by
  unfold listDrafts
  refine List.foldlRecOn
    (motive := fun report : ListReport => Listed (fun _ => titles) lines report.drafts) _ _ .nil ?_
  intro report h item _
  dsimp only
  split
  · exact List.foldlRecOn
      (motive := fun report : ListReport => Listed (fun _ => titles) lines report.drafts) _ _ h
      fun report h item hitem => listed_listLine h (Source.mem_blockBody_iff.1 hitem).2.2
  · exact h

/-- The function of an annotation is declared on a line that exists. -/
theorem Compose.lt_of_annotated? {lines : List Text.Line} {index : Nat} {composable : Composable}
    (h : annotated? lines index = some composable) : composable.index < lines.length := by
  obtain ⟨item, hitem, hfound⟩ := List.exists_of_findSome?_eq_some h
  obtain ⟨header, -, rfl⟩ := Option.map_eq_some_iff.1 hfound
  have hline := List.mem_zipIdx_iff_getElem?.1 (List.mem_of_mem_drop (List.mem_of_mem_take hitem))
  exact (List.getElem?_eq_some_iff.1 hline).1

theorem Compose.lt_of_mem_composables {lines : List Text.Line} {composable : Composable}
    (h : composable ∈ composables lines) : composable.index < lines.length := by
  unfold composables at h
  refine List.foldlRecOn (motive := fun found : List Composable =>
    ∀ composable ∈ found, composable.index < lines.length) _ _ ?_ ?_ composable h
  · exact fun _ h => absurd h List.not_mem_nil
  intro found hfound next hnext
  split
  · exact hfound
  · obtain ⟨index, -, hindex⟩ := List.mem_filterMap.1 hnext
    exact List.forall_mem_append.2 ⟨hfound, List.forall_mem_singleton.2 (lt_of_annotated? hindex)⟩

theorem Compose.listed_rules (text : List Char) :
    Listed (fun _ => titles) (Text.lines text) (rules text) := by
  refine .flatMap fun composable hcomposable => ?_
  have hline := List.getElem?_eq_getElem (lt_of_mem_composables hcomposable)
  unfold composableDrafts
  rw [hline, Option.getD_some]
  refine .append (.append (listed_modifierDrafts hline) (.filterMap fun item hitem => ?_))
    (listed_listDrafts _ _)
  dsimp only
  split
  · have hitem := (Source.mem_blockBody_iff.1 hitem).2.2
    exact .one ⟨.of_line hitem rfl rfl rfl, by simp [titles, notRemembered]⟩
  · exact .nil

end Compose

section DependencyInjection
open DependencyInjection

def DependencyInjection.titles : List (String × String) :=
  [("hilt-view-model", "ViewModel Missing @HiltViewModel Annotation"),
    ("inject-constructor", "Constructor Missing @Inject Annotation"),
    ("module-module", "Hilt Module Missing @Module Annotation"),
    ("module-installin", "Hilt Module Missing @InstallIn Annotation")]

theorem DependencyInjection.listed_rules (text : List Char) :
    Listed (fun _ => titles) (Text.lines text) (rules text) := by
  refine .zipIdx fun index line hline => ?_
  unfold lineDrafts
  refine .ite .nil (.append ?_ ?_)
  · split
    · refine .ite ?_ .nil
      unfold viewModelDrafts
      exact .append
        (.ite .nil (.one ⟨.of_line hline rfl rfl rfl, by simp [titles, missingHiltViewModel]⟩))
        (.ite (.one ⟨.of_line hline rfl rfl rfl, by simp [titles, missingInject]⟩) .nil)
    · exact .nil
  · split
    · unfold moduleDrafts
      exact .append
        (.ite .nil (.one ⟨.of_line hline rfl rfl rfl, by simp [titles, moduleDraft]; rfl⟩))
        (.ite .nil (.one ⟨.of_line hline rfl rfl rfl, by simp [titles, moduleDraft]; rfl⟩))
    · exact .nil

end DependencyInjection

section Database
open Database

def Database.titles : List (String × String) :=
  [("query-flow", "DAO Query Function Should Return Flow"),
    ("mutation-suspend", "DAO Mutation Function Should Be Suspend"),
    ("query-concatenation", "SQL Injection Risk: String Concatenation in Query"),
    ("query-parameters", "Query Should Use Parameterized Queries"),
    ("foreign-key-cascade", "Foreign Key Should Use CASCADE for onDelete")]

/-- The next function is declared on a line that exists. -/
theorem Database.getElem?_of_nextFunction {lines : List Text.Line} {start : Nat}
    {function : DaoFunction} (h : nextFunction lines start = some function) :
    ∃ index : Nat, function.index = index ∧ ∃ line, lines[index]? = some line := by
  unfold nextFunction nextFunction? at h
  rw [Option.join_eq_some_iff] at h
  obtain ⟨reachable, hreach, hfound⟩ := Option.map_eq_some_iff.1 h
  obtain ⟨item, hitem, hitem'⟩ := List.exists_of_findSome?_eq_some hfound
  obtain ⟨header, -, rfl⟩ := Option.map_eq_some_iff.1 hitem'
  obtain ⟨index, hindex, hline⟩ :=
    Source.getElem?_of_mem_reach? hreach (List.mem_of_mem_take hitem)
  exact ⟨index, hindex, _, hline⟩

theorem Database.listed_daoDraft? {lines : List Text.Line} (isQuery : Bool) {start : Nat}
    {function : DaoFunction} (hfunction : nextFunction lines start = some function) :
    Listed (fun _ => titles) lines (daoDraft? lines isQuery function).toList := by
  obtain ⟨index, hindex, line, hline⟩ := getElem?_of_nextFunction hfunction
  rw [← Int.toNat_natCast index, ← hindex] at hline
  have hsnippet : String.ofList (Text.trim (lines[function.index.toNat]?.getD [])) =
      String.ofList (Text.trim line) := by rw [hline, Option.getD_some]
  unfold daoDraft?
  dsimp only
  split
  · exact .nil
  split
  · exact .one ⟨.of_line hline rfl hsnippet rfl, by simp [titles, mutationSuspend]⟩
  split
  · exact .nil
  · exact .one ⟨.of_line hline rfl hsnippet rfl, by simp [titles, queryFlow]⟩

theorem Database.listed_daoDrafts (lines : List Text.Line) (index : Nat) :
    Listed (fun _ => titles) lines (daoDrafts lines index) := by
  unfold daoDrafts
  split
  · exact .nil
  · refine .filterMap fun item _ => ?_
    dsimp only
    split
    · cases hfunction : nextFunction lines item.1 with
      | none => exact .nil
      | some function => exact listed_daoDraft? _ hfunction
    · exact .nil

theorem Database.listed_queryDrafts {lines : List Text.Line} {index : Nat} {line : Text.Line}
    (hline : lines[index]? = some line) :
    Listed (fun _ => titles) lines (queryDrafts lines index line) := by
  unfold queryDrafts
  dsimp only
  split
  · exact .one ⟨.of_line hline rfl rfl rfl, by simp [titles, queryConcatenation]⟩
  split
  · exact .nil
  · exact .ite (.one ⟨.of_line hline rfl rfl rfl, by simp [titles, queryParameters]⟩) .nil

theorem Database.listed_rules (text : List Char) :
    Listed (fun _ => titles) (Text.lines text) (rules text) := by
  refine .zipIdx fun index line hline => ?_
  change Listed _ _ (lineDrafts _ _ _)
  unfold lineDrafts
  refine .ite .nil (.append (.append (.ite (listed_daoDrafts _ _) .nil)
    (.ite (listed_queryDrafts hline) .nil)) ?_)
  · split
    · exact .nil
    · exact .ite .nil (.one ⟨.of_line hline rfl rfl rfl, by simp [titles, foreignKeyCascade]⟩)

end Database

section Security
open Security

def Security.titles : List (String × String) :=
  [("hardcoded-secret", "Hard-coded Secret"), ("cleartext-url", "Cleartext HTTP URL")]

theorem Security.listed_rules (text : List Char) :
    Listed (fun _ => titles) (Text.lines text) (rules text) := by
  refine .zipIdx fun index line hline => ?_
  unfold lineDrafts
  exact .ite .nil (.append
    (.ite (.one ⟨.of_redacted hline rfl rfl rfl, by simp [titles, hardcodedSecret]⟩) .nil)
    (.ite (.one ⟨.of_line hline rfl rfl rfl, by simp [titles, cleartextDraft]⟩) .nil))

end Security

section Performance
open Performance

def Performance.titles : List (String × String) :=
  [("loop-collection-chain", "Inefficient List Operations in Loop"),
    ("loop-string-concatenation", "String Concatenation in Loop")]

theorem Performance.listed_loopLineDraft? (textNames : List (List Char)) {lines : List Text.Line}
    {index : Nat} {line : Text.Line} (hline : lines[index]? = some line) :
    Listed (fun _ => titles) lines (loopLineDraft? textNames index line).toList := by
  unfold loopLineDraft?
  dsimp only
  split
  · exact .nil
  split
  · exact .one ⟨.of_line hline rfl rfl rfl, by simp [titles, collectionChain]⟩
  split
  · exact .one ⟨.of_line hline rfl rfl rfl, by simp [titles, stringConcatenation]⟩
  · exact .nil

theorem Performance.listed_loopDrafts (lines : List Text.Line) (textNames : List (List Char))
    (reported : List Nat) (start : Nat) :
    Listed (fun _ => titles) lines ((loopDrafts lines textNames reported start).map (·.2)) := by
  rw [loopDrafts, List.map_filterMap]
  refine .filterMap fun item hitem => ?_
  dsimp only
  split
  · exact .nil
  · rw [Option.map_map]
    have h := listed_loopLineDraft? textNames (Source.mem_blockBody_iff.1 hitem).2.2
    cases hdraft : loopLineDraft? textNames item.1 item.2 with
    | none => exact .nil
    | some draft => rwa [hdraft] at h

theorem Performance.listed_rules (text : List Char) :
    Listed (fun _ => titles) (Text.lines text) (rules text) := by
  unfold rules
  dsimp only
  refine List.foldlRecOn (motive := fun found : List (Nat × Draft) =>
    Listed (fun _ => titles) (Text.lines text) (found.map (·.2))) _ _ ?_ ?_
  · exact .nil
  intro found h item _
  split
  · exact h
  · rw [List.map_append]
    exact h.append (listed_loopDrafts _ _ _ _)

end Performance

section TestCoverage
open TestCoverage

def TestCoverage.titles (file : SourceFile) (text : List Char) : List (String × String) :=
  let kind := (componentKind? file text).getD ""
  [("missing-test", s!"Missing Test File for {kind}"),
    ("test-file-naming", "Test File Does Not Follow Naming Convention")]

theorem TestCoverage.listed_rules {isFile : FileTest} {file : SourceFile} {text : List Char}
    {drafts : List Draft} (h : rules isFile file text = .ok drafts) :
    Listed (fun _ => titles file text) (Text.lines text) drafts := by
  unfold rules at h
  split at h
  · split at h
    · cases h
      exact .one ⟨.of_nothing rfl rfl rfl, by simp [titles, testFileNaming]⟩
    · cases h
      exact .nil
  · split at h
    · cases h
      exact .nil
    · next kind hkind =>
      dsimp only at h
      split at h
      · cases h
        exact .nil
      · obtain ⟨exists?, -, hrest⟩ := Outcome.bind_eq_ok.1 h
        cases exists? with
        | true =>
          cases hrest
          exact .nil
        | false =>
          cases hrest
          exact .one ⟨.of_nothing rfl rfl rfl, by simp [titles, missingTest, hkind]⟩

end TestCoverage

/-! ### Rules whose titles hold a name -/

/-- What is read off a line, by the number of the line. -/
def readAt (read? : Text.Line → Option String) (lines : List Text.Line) (number : Nat) : String :=
  ((lines[number - 1]?).bind read?).getD ""

theorem readAt_eq {read? : Text.Line → Option String} {lines : List Text.Line} {line : Text.Line}
    {index : Nat} {name : String} (hline : lines[index]? = some line) (hname : read? line = some name) :
    readAt read? lines (index + 1) = name := by
  rw [readAt, Nat.add_sub_cancel, hline, Option.bind_some, hname]
  rfl

section CodeSmell
open CodeSmell Source

/-- The name that a header declares. -/
def declaredName? (header : Pattern) (line : Text.Line) : Option String :=
  (header.matchStart? line).map fun found => String.ofList (found.group nameGroup)

theorem name_of_mem_declarations {header : Pattern} {lines : List Text.Line}
    {declaration : Declaration} (h : declaration ∈ declarations header lines) :
    readAt (declaredName? header) lines declaration.number = declaration.name ∧
      declaration.first < lines.length := by
  obtain ⟨⟨line, index⟩, hline, hfound⟩ := List.mem_filterMap.1 h
  obtain ⟨found, hmatch, rfl⟩ := Option.map_eq_some_iff.1 hfound
  have hline := List.mem_zipIdx_iff_getElem?.1 hline
  exact ⟨readAt_eq hline (by rw [declaredName?, hmatch]; rfl), (List.getElem?_eq_some_iff.1 hline).1⟩

def CodeSmell.titles (lines : List Text.Line) : Titles := fun number =>
  let function := readAt (declaredName? functionHeader) lines number
  let type := readAt (declaredName? classHeader) lines number
  [("long-function", s!"Long Function: {function}"),
    ("too-many-parameters", s!"Too Many Parameters: {function}"),
    ("high-complexity", s!"High Cyclomatic Complexity: {function}"),
    ("deep-nesting", s!"Deep Nesting: {function}"), ("large-class", s!"Large Class: {type}")]

theorem CodeSmell.listed_functionDrafts {lines : List Text.Line} {function : Declaration}
    (h : function ∈ declarations functionHeader lines) :
    Listed (titles lines) lines (functionDrafts lines function) := by
  obtain ⟨hname, hlt⟩ := name_of_mem_declarations h
  refine .filterMap fun draft? hdraft => ?_
  simp only [List.mem_cons, List.not_mem_nil, or_false] at hdraft
  rcases hdraft with rfl | rfl | rfl | rfl
  · exact .toList_ite ⟨.of_excerpt hlt rfl rfl rfl, by simp [titles, hname]⟩
  · exact .toList_ite ⟨.of_excerpt hlt rfl rfl rfl, by simp [titles, hname]⟩
  · exact .toList_ite ⟨.of_excerpt hlt rfl rfl rfl, by simp [titles, hname]⟩
  · exact .toList_ite ⟨.of_excerpt hlt rfl rfl rfl, by simp [titles, hname]⟩

theorem CodeSmell.listed_rules (text : List Char) :
    Listed (titles (Text.lines text)) (Text.lines text) (rules text) := by
  refine .append (.flatMap fun function hfunction => listed_functionDrafts hfunction)
    (.filterMap fun type htype => ?_)
  obtain ⟨hname, hlt⟩ := name_of_mem_declarations htype
  exact .toList_ite ⟨.of_excerpt hlt rfl rfl rfl, by simp [titles, hname]⟩

end CodeSmell

section Documentation
open Documentation

def Documentation.declaredName? (line : Text.Line) : Option String :=
  (declaration.matchStart? (Text.trim line)).map fun found => String.ofList (found.group nameGroup)

def Documentation.titles (lines : List Text.Line) : Titles := fun number =>
  [("missing-kdoc", s!"Missing Documentation: {readAt Documentation.declaredName? lines number}")]

theorem Documentation.listed_rules (text : List Char) :
    Listed (titles (Text.lines text)) (Text.lines text) (rules text) := by
  refine .zipIdx? fun index line hline => ?_
  change Listed _ _ (lineDraft? _ _ _).toList
  unfold lineDraft?
  split
  · exact .nil
  · next found hfound =>
    have hname : readAt Documentation.declaredName? (Text.lines text) (index + 1) =
        String.ofList (found.group nameGroup) :=
      readAt_eq hline (by rw [Documentation.declaredName?, hfound]; rfl)
    dsimp only
    split
    · exact .nil
    split
    · exact .nil
    · exact .one ⟨.of_line hline rfl rfl rfl, by simp [titles, missingDocumentation, hname]⟩

end Documentation

/-! ### The catalogue -/

/-- An analyzer with its drafts about a file and the names of its rules. -/
structure Chapter where
  analyzer : Analyzer
  drafts : FileTest → SourceFile → List Char → Except Failure (List Draft)
  rules : List String

namespace Chapter

/-- The chapter of an analyzer that never fails. -/
def ofRules (analyzer : Analyzer) (rules : SourceFile → List Char → List Draft)
    (names : List String) : Chapter := ⟨analyzer, fun _ file text => .ok (rules file text), names⟩

/-- The analyzer reports its drafts and nothing else. -/
def Reports (chapter : Chapter) : Prop := ∀ isFile file text,
  chapter.analyzer.analyze isFile file text = (chapter.drafts isFile file text).map
    (List.map (·.finding chapter.analyzer.id chapter.analyzer.category file))

/-- In every file the drafts have titles of the rules at their lines. -/
def Covers (chapter : Chapter) : Prop := ∀ isFile file text drafts,
  chapter.drafts isFile file text = .ok drafts →
    ∃ titles : Titles, (∀ line, (titles line).map Prod.fst = chapter.rules) ∧
      Listed titles (Text.lines text) drafts

theorem covers_ofRules {analyzer : Analyzer} {rules : SourceFile → List Char → List Draft}
    {names : List String} (titles : SourceFile → List Char → Titles)
    (hnames : ∀ file text line, (titles file text line).map Prod.fst = names)
    (h : ∀ file text, Listed (titles file text) (Text.lines text) (rules file text)) :
    (ofRules analyzer rules names).Covers := by
  intro isFile file text drafts hdrafts
  obtain rfl := Except.ok.inj hdrafts
  exact ⟨titles file text, hnames file text, h file text⟩

end Chapter

/-- The bundled analyzers with all their rules. -/
def catalogue : List Chapter :=
  [.ofRules Architecture.analyzer Architecture.rules (Architecture.titles.map Prod.fst),
    .ofRules CodeSmell.analyzer (fun _ => CodeSmell.rules)
      ["long-function", "too-many-parameters", "high-complexity", "deep-nesting", "large-class"],
    .ofRules Naming.analyzer Naming.rules (Naming.titles.map Prod.fst),
    .ofRules ErrorHandling.analyzer (fun _ => ErrorHandling.rules) (ErrorHandling.titles.map Prod.fst),
    .ofRules StateManagement.analyzer (fun _ => StateManagement.rules)
      (StateManagement.titles.map Prod.fst),
    .ofRules Compose.analyzer (fun _ => Compose.rules) (Compose.titles.map Prod.fst),
    .ofRules DependencyInjection.analyzer (fun _ => DependencyInjection.rules)
      (DependencyInjection.titles.map Prod.fst),
    .ofRules Database.analyzer (fun _ => Database.rules) (Database.titles.map Prod.fst),
    .ofRules Security.analyzer (fun _ => Security.rules) (Security.titles.map Prod.fst),
    .ofRules Performance.analyzer (fun _ => Performance.rules) (Performance.titles.map Prod.fst),
    ⟨TestCoverage.analyzer, fun isFile file text =>
      (TestCoverage.rules isFile file text).mapError Failure.file, ["missing-test", "test-file-naming"]⟩,
    .ofRules Documentation.analyzer (fun _ => Documentation.rules) ["missing-kdoc"]]

theorem analyzers_catalogue : catalogue.map Chapter.analyzer = bundledAnalyzers := rfl

theorem id_injective_catalogue {chapter other : Chapter} (h : chapter ∈ catalogue)
    (hother : other ∈ catalogue) (hid : chapter.analyzer.id = other.analyzer.id) : chapter = other := by
  have hnodup : (catalogue.map (·.analyzer.id)).Nodup := by
    have hdistinct := Registry.bundled.distinct
    rw [show Registry.bundled.analyzers = catalogue.map Chapter.analyzer from analyzers_catalogue.symm,
      List.map_map] at hdistinct
    exact hdistinct
  exact List.inj_on_of_nodup_map hnodup h hother hid

theorem reports_of_mem_catalogue {chapter : Chapter} (h : chapter ∈ catalogue) : chapter.Reports := by
  simp only [catalogue, List.mem_cons, List.not_mem_nil, or_false] at h
  rcases h with rfl | rfl | rfl | rfl | rfl | rfl | rfl | rfl | rfl | rfl | rfl | rfl
  case inr.inr.inr.inr.inr.inr.inr.inr.inr.inr.inl =>
    intro isFile file text
    simp only [TestCoverage.analyzer]
    cases TestCoverage.rules isFile file text <;> rfl
  all_goals exact fun _ _ _ => rfl

theorem covers_of_mem_catalogue {chapter : Chapter} (h : chapter ∈ catalogue) : chapter.Covers := by
  simp only [catalogue, List.mem_cons, List.not_mem_nil, or_false] at h
  rcases h with rfl | rfl | rfl | rfl | rfl | rfl | rfl | rfl | rfl | rfl | rfl | rfl
  · exact Chapter.covers_ofRules (fun _ _ _ => Architecture.titles) (fun _ _ _ => rfl)
      Architecture.listed_rules
  · exact Chapter.covers_ofRules (fun _ text => CodeSmell.titles (Text.lines text))
      (fun _ _ _ => rfl) fun _ => CodeSmell.listed_rules
  · exact Chapter.covers_ofRules (fun _ _ _ => Naming.titles) (fun _ _ _ => rfl) Naming.listed_rules
  · exact Chapter.covers_ofRules (fun _ _ _ => ErrorHandling.titles) (fun _ _ _ => rfl)
      fun _ => ErrorHandling.listed_rules
  · exact Chapter.covers_ofRules (fun _ _ _ => StateManagement.titles) (fun _ _ _ => rfl)
      fun _ => StateManagement.listed_rules
  · exact Chapter.covers_ofRules (fun _ _ _ => Compose.titles) (fun _ _ _ => rfl)
      fun _ => Compose.listed_rules
  · exact Chapter.covers_ofRules (fun _ _ _ => DependencyInjection.titles) (fun _ _ _ => rfl)
      fun _ => DependencyInjection.listed_rules
  · exact Chapter.covers_ofRules (fun _ _ _ => Database.titles) (fun _ _ _ => rfl)
      fun _ => Database.listed_rules
  · exact Chapter.covers_ofRules (fun _ _ _ => Security.titles) (fun _ _ _ => rfl)
      fun _ => Security.listed_rules
  · exact Chapter.covers_ofRules (fun _ _ _ => Performance.titles) (fun _ _ _ => rfl)
      fun _ => Performance.listed_rules
  · intro isFile file text drafts hdrafts
    refine ⟨fun _ => TestCoverage.titles file text, fun _ => rfl, ?_⟩
    exact TestCoverage.listed_rules (Outcome.mapError_eq_ok.1 hdrafts)
  · exact Chapter.covers_ofRules (fun _ text => Documentation.titles (Text.lines text))
      (fun _ _ _ => rfl) fun _ => Documentation.listed_rules

/-- All rules with their analyzers. -/
def headings : List (String × String) :=
  catalogue.flatMap fun chapter => chapter.rules.map (chapter.analyzer.id, ·)

theorem mem_headings_iff {analyzer rule : String} : (analyzer, rule) ∈ headings ↔
    ∃ chapter ∈ catalogue, chapter.analyzer.id = analyzer ∧ rule ∈ chapter.rules := by
  rw [headings, List.mem_flatMap]
  refine exists_congr fun chapter => and_congr_right fun _ => ?_
  rw [List.mem_map]
  constructor
  · rintro ⟨_, hrule, hpair⟩
    obtain ⟨hid, rfl⟩ := Prod.mk.inj hpair
    exact ⟨hid, hrule⟩
  · rintro ⟨rfl, hrule⟩
    exact ⟨rule, hrule, rfl⟩

theorem nodup_rules_of_mem_catalogue : ∀ chapter ∈ catalogue, chapter.rules.Nodup := by
  decide +kernel

theorem distinct_headings : Identifier.Distinct headings where
  words := by
    have hwords : ∀ chapter ∈ catalogue, Identifier.Word chapter.analyzer.id ∧
        ∀ rule ∈ chapter.rules, Identifier.Word rule := by decide +kernel
    rintro ⟨_, rule⟩ h
    obtain ⟨chapter, hchapter, rfl, hrule⟩ := mem_headings_iff.1 h
    exact ⟨(hwords chapter hchapter).1, (hwords chapter hchapter).2 rule hrule⟩
  free := by
    -- Analyzers are compared first, so rules have to be told apart within a chapter only.
    have hids : ∀ chapter ∈ catalogue, ∀ other ∈ catalogue,
        chapter.analyzer.id.toList ++ ['-'] <+: other.analyzer.id.toList ++ ['-'] →
          chapter.analyzer.id = other.analyzer.id := by decide +kernel
    have hrules : ∀ chapter ∈ catalogue, ∀ rule ∈ chapter.rules, ∀ other ∈ chapter.rules,
        rule.toList ++ ['-'] <+: other.toList ++ ['-'] → rule = other := by decide +kernel
    rintro ⟨_, rule⟩ h ⟨_, rule'⟩ h' hprefix
    obtain ⟨chapter, hchapter, rfl, hrule⟩ := mem_headings_iff.1 h
    obtain ⟨other, hother, rfl, hrule'⟩ := mem_headings_iff.1 h'
    obtain ⟨hanalyzer, hrest⟩ := Identifier.heading_prefix hprefix
    have hid : chapter.analyzer.id = other.analyzer.id := by
      rcases hanalyzer with hle | hle
      · exact hids _ hchapter _ hother hle
      · exact (hids _ hother _ hchapter hle).symm
    obtain rfl := id_injective_catalogue hchapter hother hid
    rw [hrules _ hchapter _ hrule _ hrule' (hrest rfl)]

end KotlinAudit.Rule
