import KotlinAudit.Proofs.Rule.Smell
import KotlinAudit.Proofs.Source.Block
import KotlinAudit.Proofs.Source.Parameters

/-! What is said about functions. A header without a brace and without an equals sign is a declaration of one
line as long as none of the next lines within reach opens a block or holds an expression body. If one of them
does, whatever it declares, the function goes on up to the end of that. A function of one line is neither long
nor deeply nested, and it is complex only if its own line is. The pattern of a header passes over annotations,
but the count of parameters starts at the first parenthesis of the line. So it counts the arguments of the first
annotation that has any, whatever the function declares. -/
namespace KotlinAudit

open Text (Line)

/-! ### Functions without a body -/

namespace Source

variable {line : Line}

theorem foldl_nestingStep {text : List Char} (h : '\x7b' ∉ text) (depth deepest : Int) :
    (text.foldl nestingStep (depth, deepest)).2 = deepest := by
  induction text generalizing depth with
  | nil => rfl
  | cons c rest ih =>
    rw [List.mem_cons, not_or] at h
    obtain ⟨hc, hrest⟩ := h
    rw [List.foldl_cons, nestingStep, if_neg (Ne.symm hc)]
    split
    · exact ih hrest _
    · exact ih hrest _

theorem not_mem_withoutNoise (hbrace : '\x7b' ∉ line) : '\x7b' ∉ withoutNoise line := fun h =>
  hbrace (Pattern.mem_of_mem_replaceAll (fun _ => by decide)
    (Pattern.mem_of_mem_replaceAll (fun _ => List.not_mem_nil) h))

theorem nesting_of_not_mem (hbrace : '\x7b' ∉ line) : nesting [line] = 0 := by
  have hdeepest := foldl_nestingStep (not_mem_withoutNoise hbrace) 0 0
  rw [nesting, List.map_singleton, List.flatten_singleton]
  simp only [hdeepest]
  rfl

end Source

namespace Rule.CodeSmell

open Source (Declaration)

variable {lines : List Line} {index : Nat} {line : Line} {function : Declaration} {draft : Draft}

/-- A function of one line without an opening brace takes too many parameters or is complex by its line. -/
theorem rule_of_mem_functionDrafts (hline : lines[function.first]? = some line)
    (hlast : function.last = function.first) (hbrace : '\x7b' ∉ line)
    (h : draft ∈ functionDrafts lines function) : draft.rule = "too-many-parameters" ∨
      draft.rule = "high-complexity" ∧ maxComplexity < Source.complexity [line] := by
  obtain ⟨hlt, rfl⟩ := List.getElem?_eq_some_iff.1 hline
  have hbody : bodyOf lines function = [lines[function.first]] := by
    rw [bodyOf, hlast, List.drop_take, Nat.add_sub_cancel_left, List.drop_eq_getElem_cons hlt,
      List.take_succ_cons, List.take_zero]
  rw [functionDrafts_eq] at h
  obtain ⟨smell, hsmell, hdraft⟩ := List.mem_filterMap.1 h
  obtain ⟨hbeyond, hrule, -, -⟩ := smell.says_of_draft hdraft
  rw [hrule]
  cases smell with
  | longFunction =>
    have hcount : (maxFunctionLines : Int) < function.lineCount := hbeyond
    rw [Declaration.lineCount, hlast, maxFunctionLines] at hcount
    omega
  | manyParameters => exact .inl rfl
  | highComplexity =>
    rw [Smell.value, hbody] at hbeyond
    exact .inr ⟨rfl, Int.ofNat_lt.1 hbeyond⟩
  | deepNesting =>
    rw [Smell.value, hbody, Source.nesting_of_not_mem hbrace] at hbeyond
    exact absurd (Int.ofNat_lt.1 hbeyond) (Nat.not_lt_zero _)
  | largeClass => exact absurd hsmell (by decide)

/-- A function without a body is one line exactly as long as none of the next lines within reach ends its
header. A function of one line is neither long nor deeply nested, and complex only by its own line. -/
theorem lineCount_of_bodiless (hline : lines[index]? = some line)
    (hheader : Source.functionHeader.matchesStart line = true) (hbrace : '\x7b' ∉ line)
    (hequals : '=' ∉ line) : ∃ function ∈ Source.declarations Source.functionHeader lines,
      function.first = index ∧ Source.Ends lines index function.last ∧
      (∀ other ∈ Source.declarations Source.functionHeader lines,
        other.first = index → other = function) ∧
      (function.lineCount = 1 ↔ ∀ next ∈ (lines.drop (index + 1)).take Source.headerReach,
        Source.endsHeader next = false) ∧
      (function.lineCount = 1 → ∀ draft ∈ functionDrafts lines function,
        draft.rule = "too-many-parameters" ∨
          draft.rule = "high-complexity" ∧ maxComplexity < Source.complexity [line]) := by
  have hends := Source.endsHeader_of_bodiless hbrace hequals
  have hlt := (List.getElem?_eq_some_iff.1 hline).1
  obtain ⟨function, hfunction, rfl, hlast, hother⟩ := Source.exists_declaration hline hheader
  have hcount : function.lineCount = 1 ↔ function.last = function.first := by
    rw [Declaration.lineCount]
    omega
  refine ⟨function, hfunction, rfl, (Source.blockEnd_eq_iff hlt).1 hlast.symm, hother, ?_,
    fun hone draft hdraft => rule_of_mem_functionDrafts hline (hcount.1 hone) hbrace hdraft⟩
  rw [hcount, hlast, Source.blockEnd_eq_self_iff hline hends, Source.plain_iff_forall_mem hline hends]

/-- A function without a body that takes over the block of the next one. -/
theorem lineCount_of_bodiless_followed :
    Source.functionHeader.matchesStart "fun b() \x7b".toList = true ∧
      ∃ function ∈ Source.declarations Source.functionHeader
        ["fun a()".toList, "fun b() \x7b".toList, "\x7d".toList],
        function.first = 0 ∧ function.lineCount ≠ 1 := by
  obtain ⟨function, hfunction, hfirst, -, -, hone, -⟩ := @lineCount_of_bodiless
    ["fun a()".toList, "fun b() \x7b".toList, "\x7d".toList] 0 "fun a()".toList rfl (by decide +kernel)
    (by decide) (by decide)
  refine ⟨by decide +kernel, function, hfunction, hfirst, fun hcount => ?_⟩
  have hnext := hone.1 hcount "fun b() \x7b".toList (by decide)
  exact absurd hnext (by decide +kernel)

end Rule.CodeSmell

/-! ### Functions behind an annotation with arguments -/

namespace Source

variable {front name args rest : Line} {c : Char}

/-- A line with an annotation put into it. -/
def annotated (front name args rest : Line) : Line :=
  front ++ '@' :: (name ++ '(' :: (args ++ ')' :: ' ' :: rest))

theorem dropWhile_visible (hopens : '(' ∉ front) (hfront : Noiseless front) (rest : Line)
    (below : List Line) : (visible ((front ++ '(' :: rest) :: below)).dropWhile (· != '(') =
      '(' :: (inked (withoutNoise rest) ++ visible below) := by
  have hnone : '(' ∉ inked front := not_mem_inked hopens (by decide)
  rw [visible_cons, withoutNoise_append_cons hfront (by decide) (by decide),
    inked_append_cons _ rfl (by decide) (by decide), List.append_assoc, List.cons_append,
    dropWhile_opening hnone]

/-- What stands in front of the first parenthesis does not count. -/
theorem parameterCount_of_front (hopens : '(' ∉ front) (hfront : Noiseless front) (rest : Line)
    (below : List Line) :
    parameterCount ((front ++ '(' :: rest) :: below) = parameterCount (('(' :: rest) :: below) := by
  have hplain := dropWhile_visible List.not_mem_nil .nil rest below
  rw [List.nil_append] at hplain
  rw [parameterCount_eq, parameterCount_eq, dropWhile_visible hopens hfront, hplain]

/-- The count starts at the parenthesis of the annotation. -/
theorem parameterCount_annotated (hopens : '(' ∉ front) (hfront : Noiseless front)
    (hname : ∀ c ∈ name, Text.isWord c = true) (args rest : Line) (below : List Line) :
    parameterCount (annotated front name args rest :: below) =
      parameterCount (('(' :: (args ++ ')' :: ' ' :: rest)) :: below) := by
  have hword : Noiseless name :=
    .of_not_mem (not_mem_of_forall hname (by decide)) (not_mem_of_forall hname (by decide))
  have hnone : '(' ∉ front ++ '@' :: name := by
    rw [List.mem_append, List.mem_cons]
    rintro (hmem | heq | hmem)
    · exact hopens hmem
    · exact absurd heq (by decide)
    · exact not_mem_of_forall hname (by decide) hmem
  have hline : annotated front name args rest =
      (front ++ '@' :: name) ++ '(' :: (args ++ ')' :: ' ' :: rest) := by
    rw [annotated, List.append_assoc, List.cons_append]
  rw [hline]
  exact parameterCount_of_front hnone (hfront.append_cons hword (by decide) (by decide)) _ below

theorem parameterCount_arguments {arguments : List Line} (h : Listing arguments args) (rest : Line)
    (below : List Line) : parameterCount (('(' :: (args ++ ')' :: rest)) :: below) = arguments.length :=
  parameterCount_of_visible List.not_mem_nil h (visible_of_laid .last
    (Noiseless.nil.append_cons h.noiseless (by decide) (by decide)) below)

end Source

namespace Rule.CodeSmell

open Source

variable {lines : List Line} {function : Declaration} {front name rest : Line}

theorem exists_parameters_iff :
    (∃ draft ∈ functionDrafts lines function, draft.rule = "too-many-parameters") ↔
      maxParameters < parameterCount (lines.drop function.first) := by
  simp only [functionDrafts_eq, List.mem_filterMap]
  constructor
  · rintro ⟨draft, ⟨smell, -, hdraft⟩, hrule⟩
    obtain ⟨hbeyond, hsmell, -, -⟩ := smell.says_of_draft hdraft
    rw [hsmell] at hrule
    obtain rfl : smell = .manyParameters := by
      revert hrule
      cases smell <;> decide
    exact Int.ofNat_lt.1 hbeyond
  · intro hmany
    have hdraft : ∃ draft, manyParameters lines function = some draft :=
      ⟨_, if_neg (Nat.not_le_of_lt hmany)⟩
    obtain ⟨draft, hdraft⟩ := hdraft
    exact ⟨draft, ⟨.manyParameters, by decide, hdraft⟩,
      (@Smell.says_of_draft _ _ _ .manyParameters hdraft).rule⟩

/-- A function behind an annotation has as many parameters as the annotation has arguments, whatever else stands
behind it, be it another annotation: as many as without the annotation only if that has been their number. -/
theorem parameters_of_annotated (hopens : '(' ∉ front) (hfront : Noiseless front)
    (hname : ∀ c ∈ name, Text.isWord c = true) {args : Line} (above below : List Line)
    (hheader : functionHeader.matchesStart (annotated front name args rest) = true)
    (hlines : lines = above ++ annotated front name args rest :: below) :
    ∃ function ∈ declarations functionHeader lines, function.first = above.length ∧
      parameterCount (lines.drop function.first) =
        parameterCount (('(' :: (args ++ ')' :: ' ' :: rest)) :: below) ∧
      ∀ arguments, Listing arguments args →
        parameterCount (lines.drop function.first) = arguments.length ∧
        (∀ other, parameterCount (annotated front name args other :: below) = arguments.length) ∧
        (parameterCount (lines.drop function.first) = parameterCount ((front ++ rest) :: below) ↔
          parameterCount ((front ++ rest) :: below) = arguments.length) ∧
        ((∃ draft ∈ functionDrafts lines function, draft.rule = "too-many-parameters") ↔
          maxParameters < arguments.length) := by
  have hline : lines[above.length]? = some (annotated front name args rest) := by
    rw [hlines, List.getElem?_append_right (Nat.le_refl _), Nat.sub_self, List.getElem?_cons_zero]
  obtain ⟨function, hfunction, hfirst, -, -⟩ := exists_declaration hline hheader
  have hcount : parameterCount (lines.drop function.first) =
      parameterCount (annotated front name args rest :: below) := by
    rw [hfirst, hlines, List.drop_left]
  have hstart := parameterCount_annotated hopens hfront hname args
  refine ⟨function, hfunction, hfirst, hcount.trans (hstart rest below), fun arguments harguments => ?_⟩
  have hnumber : ∀ other, parameterCount (annotated front name args other :: below) = arguments.length :=
    fun other => (hstart other below).trans (parameterCount_arguments harguments (' ' :: other) below)
  rw [exists_parameters_iff, hcount, hnumber]
  exact ⟨rfl, hnumber, eq_comm, Iff.rfl⟩

/-- A function with one parameter behind an annotation with two arguments. -/
theorem parameters_of_annotated_named :
    let header := "fun load(id: Int)".toList
    let line := annotated [] "Named".toList "value, other".toList header
    functionHeader.matchesStart header = true ∧ functionHeader.matchesStart line = true ∧
      parameterCount [header] = 1 ∧ parameterCount [line] = 2 := by
  intro header line
  have hline : functionHeader.matchesStart line = true := by decide +kernel
  have hheader : parameterCount [header] = 1 := by decide +kernel
  have harguments : Listing ["value".toList, " other".toList] "value, other".toList :=
    .cons (by decide +kernel) (.last (by decide +kernel))
  obtain ⟨function, -, hfirst, -, hnumber⟩ := parameters_of_annotated
    (show '(' ∉ ([] : Line) from List.not_mem_nil) .nil (List.all_eq_true.1 rfl) [] [] hline rfl
  have hcount := (hnumber _ harguments).1
  rw [hfirst] at hcount
  exact ⟨by decide +kernel, hline, hheader, hcount⟩

end Rule.CodeSmell

end KotlinAudit
