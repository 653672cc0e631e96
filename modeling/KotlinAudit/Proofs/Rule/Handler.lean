import KotlinAudit.Proofs.Pattern.Occurrence
import KotlinAudit.Proofs.Rule.Placement
import KotlinAudit.Proofs.Source.Enclosed

/-! What is said about handlers. The block behind a catch clause is read line by line, and what a line does is
told by how it starts. So a block with a statement on each line is said to do nothing but log if all statements
do, but a block with all statements on one line if the first of them does. -/
namespace KotlinAudit.Rule.ErrorHandling

open Source (linesFrom OpensFirst Encloses Cut isStatement)
open Text (Line)

/-- The catch clause on the line with an index, and the lines that the block behind it holds. -/
def Catches (text : List Char) (index : Nat) (inside : List Line) : Prop :=
  ∃ line found, (Text.lines text)[index]? = some line ∧ catchClause.search? line = some found ∧
    OpensFirst (linesFrom (Text.lines text) index found.start.position) ∧
    Encloses (linesFrom (Text.lines text) index found.start.position) inside

/-- What is written on the lines of a block, without white space around it and without empty lines. -/
def entries (inside : List Line) : List Line := (inside.map Text.trim).filter (!·.isEmpty)

/-- A statement that starts with a logging call. -/
def Logs (statement : Line) : Prop := loggingCall.matchesStart statement = true

instance (statement : Line) : Decidable (Logs statement) :=
  inferInstanceAs (Decidable (loggingCall.matchesStart statement = true))

/-- The handler on the line with an index is said to be empty or to do nothing but log. -/
def Blamed (findings : List Finding) (index : Nat) : Prop :=
  ∃ finding ∈ findings, finding.line = index + 1 ∧ finding.title = "Empty or Logging-Only Catch Block"

variable {text other : List Char} {index number : Nat} {inside stacked inline statements : List Line}
  {statement : Line}

/-! ### One handler -/

theorem filter_isStatement (inside : List Line) : (inside.map Text.trim).filter isStatement =
    (entries inside).filter fun line => !(['/', '/'].isPrefixOf line) := by
  rw [entries, List.filter_filter]
  exact List.filter_congr fun line _ => Bool.and_comm _ _

theorem mem_rules_iff {draft : Draft} {line : Line} (hline : (Text.lines text)[index]? = some line) :
    draft ∈ rules text ∧ draft.line = index + 1 ↔ draft ∈ lineDrafts (Text.lines text) index line :=
  mem_flatMap_zipIdx_iff (fun _ _ _ hdraft => (ErrorHandling.about hdraft).number) hline

theorem exists_swallowed_iff {lines : List Line} {line : Line} {found : Match}
    (hfound : catchClause.search? line = some found) :
    (∃ draft ∈ lineDrafts lines index line, draft.title = "Empty or Logging-Only Catch Block") ↔
      onlyLogs (Source.catchStatements lines index found.start.position) = true := by
  rw [lineDrafts, hfound]
  dsimp only
  constructor
  · rintro ⟨draft, hdraft, htitle⟩
    rcases List.mem_append.1 hdraft with hdraft | hdraft
    · split at hdraft
      · assumption
      · exact absurd hdraft List.not_mem_nil
    · split at hdraft
      · obtain rfl := List.mem_singleton.1 hdraft
        exact absurd htitle
          (show ¬"Generic Exception Catch" = "Empty or Logging-Only Catch Block" by decide)
      · exact absurd hdraft List.not_mem_nil
  · intro honly
    rw [if_pos honly]
    exact ⟨_, List.mem_append_left _ List.mem_cons_self, rfl⟩

/-- A handler is blamed exactly if what its lines hold starts with logging calls. -/
theorem blamed_iff (h : Catches text index inside) (file : SourceFile)
    (hcode : ∀ entry ∈ entries inside, ¬['/', '/'] <+: entry) :
    Blamed ((rules text).map (·.finding analyzer.id analyzer.category file)) index ↔
      ∀ entry ∈ entries inside, Logs entry := by
  obtain ⟨line, found, hline, hfound, hopens, hencloses⟩ := h
  have hstatements : Source.catchStatements (Text.lines text) index found.start.position = entries inside := by
    rw [Source.catchStatements, Source.catchStatements?_of_encloses hencloses hopens, Option.getD_some,
      filter_isStatement, List.filter_eq_self.2 fun entry hentry => ?_]
    rw [Bool.not_eq_true', ← Bool.not_eq_true, List.isPrefixOf_iff_prefix]
    exact hcode entry hentry
  have honly := @exists_swallowed_iff index (Text.lines text) line found hfound
  rw [hstatements, onlyLogs, List.all_eq_true] at honly
  rw [Blamed, exists_finding_iff]
  simp only [← and_assoc, mem_rules_iff hline]
  exact honly

/-! ### Layouts -/

/-- All statements on one line, with a semicolon between them. -/
def onOneLine (statements : List Line) : Line := Text.join "; ".toList statements

theorem onOneLine_singleton (statement : Line) : onOneLine [statement] = statement := by
  simp [onOneLine, Text.join]

theorem onOneLine_cons_cons (first second : Line) (rest : List Line) :
    onOneLine (first :: second :: rest) = first ++ ';' :: ' ' :: onOneLine (second :: rest) := by
  rw [onOneLine, Text.join, List.intercalate_cons_cons]
  simp [onOneLine, Text.join]

/-- Of the statements on one line the first one tells whether the line starts with a logging call. -/
theorem logs_onOneLine (hne : statements ≠ []) :
    Logs (onOneLine statements) ↔ Logs (statements.head hne) := by
  match statements with
  | [first] => rw [onOneLine_singleton, List.head_singleton]
  | first :: second :: rest =>
    rw [onOneLine_cons_cons, List.head_cons]
    exact Pattern.matchesStart_append_cons rfl (by decide) first _

theorem not_comment_onOneLine (hne : statements ≠ []) (hempty : [] ∉ statements)
    (hcode : ∀ statement ∈ statements, ¬['/', '/'] <+: statement) : ¬['/', '/'] <+: onOneLine statements := by
  match statements with
  | [first] => rw [onOneLine_singleton]; exact hcode first List.mem_cons_self
  | [] :: second :: rest => exact absurd List.mem_cons_self hempty
  | [c] :: second :: rest =>
    rw [onOneLine_cons_cons]
    simp
  | (c :: d :: first) :: second :: rest =>
    have hfirst := hcode (c :: d :: first) List.mem_cons_self
    rw [onOneLine_cons_cons]
    simpa using hfirst

/-- Where the statements of a handler stand on a line each, all of them tell what is said about it; where they
stand on one line, the first one does. So the layout is of no account exactly if all statements log or the first
one does not. -/
theorem blamed_layouts_iff (isFile : FileTest) (file : SourceFile) (hne : statements ≠ [])
    (hcode : ∀ statement ∈ statements, ¬['/', '/'] <+: statement)
    (hstacked : Catches text index stacked) (hlines : entries stacked = statements)
    (hinline : Catches other number inline) (hline : entries inline = [onOneLine statements]) :
    ∃ findings others, analyzer.analyze isFile file text = .ok findings ∧
      analyzer.analyze isFile file other = .ok others ∧
      (Blamed findings index ↔ ∀ statement ∈ statements, Logs statement) ∧
      (Blamed others number ↔ Logs (statements.head hne)) ∧
      ((Blamed findings index ↔ Blamed others number) ↔
        (Logs (statements.head hne) → ∀ statement ∈ statements, Logs statement)) := by
  have hempty : [] ∉ statements := by
    rw [← hlines, entries, List.mem_filter]
    exact fun h => Bool.false_ne_true h.2
  have hall := blamed_iff hstacked file (by rwa [hlines])
  have hfirst := blamed_iff hinline file
    (by rw [hline, List.forall_mem_singleton]; exact not_comment_onOneLine hne hempty hcode)
  rw [hlines] at hall
  rw [hline, List.forall_mem_singleton, logs_onOneLine hne] at hfirst
  refine ⟨_, _, rfl, rfl, hall, hfirst, (iff_congr hall hfirst).trans ?_⟩
  exact ⟨fun h => h.2, fun h => ⟨fun hall => hall _ (List.head_mem hne), h⟩⟩

def meals : SourceFile := ⟨⟨1, ["Meals.kt"]⟩, "Meals.kt", 90, 0, none⟩

/-- A handler that logs and throws again, in both layouts. -/
def stackedText : List Char :=
  "try \x7b save() \x7d catch (e: IOException) \x7b\nLog.e(TAG, msg)\nthrow e\n\x7d".toList

def inlineText : List Char :=
  "try \x7b save() \x7d catch (e: IOException) \x7b Log.e(TAG, msg); throw e \x7d".toList

theorem catches_stackedText : Catches stackedText 0 [[], "Log.e(TAG, msg)".toList, "throw e".toList, []] :=
  ⟨_, _, rfl, rfl, by decide,
    .closed (@Cut.here '\x7b' "catch (e: IOException) ".toList [] _) (by decide)
      (.later (.later (.later (@Cut.here '\x7d' [] [] _)))) (by decide)⟩

theorem catches_inlineText : Catches inlineText 0 [" Log.e(TAG, msg); throw e ".toList] :=
  ⟨_, _, rfl, rfl, by decide,
    .closed (@Cut.here '\x7b' "catch (e: IOException) ".toList _ _) (by decide)
      (@Cut.here '\x7d' " Log.e(TAG, msg); throw e ".toList [] _) (by decide)⟩

/-- On lines of their own the two statements are known to handle the failure, on one line they are not. -/
theorem blamed_layouts_iff_rethrowing : ∃ findings others,
    analyzer.analyze (fun _ => .ok false) meals stackedText = .ok findings ∧
      analyzer.analyze (fun _ => .ok false) meals inlineText = .ok others ∧
      ¬Blamed findings 0 ∧ Blamed others 0 := by
  obtain ⟨findings, others, hfindings, hothers, hall, hfirst, -⟩ :=
    @blamed_layouts_iff stackedText inlineText 0 0 _ _ ["Log.e(TAG, msg)".toList, "throw e".toList]
      (fun _ => .ok false) meals (by decide) (by decide) catches_stackedText (by decide)
      catches_inlineText (by decide)
  refine ⟨findings, others, hfindings, hothers, fun hblamed => ?_, hfirst.2 (by decide +kernel)⟩
  exact absurd (hall.1 hblamed "throw e".toList (by decide)) (by decide +kernel)

end KotlinAudit.Rule.ErrorHandling
