import KotlinAudit.Proofs.Rule.Sentence
import KotlinAudit.Proofs.Source.Noise

/-! The smells of a declaration. Each of them is told by a number, and its finding states this number in a sentence
about the name of the declaration. Two patterns look for stated numbers. In a finding they find the number that it
states, if it is on their scale, and else nothing; what the declaration is called does not matter, as long as the
name of a complex function begins with no digit. The numbers grow with the source: only one with more characters than
there can ever be would have numbers of too many digits. -/
namespace KotlinAudit

open Source
open Text (Line)

namespace Rule.CodeSmell

/-- What can be found wrong with a declaration. -/
inductive Smell
  | longFunction | manyParameters | highComplexity | deepNesting | largeClass
deriving DecidableEq, Repr

/-- The lines that a declaration runs over. -/
def bodyOf (lines : List Line) (declaration : Declaration) : List Line :=
  (lines.take (declaration.last + 1)).drop declaration.first

def numeral (count : Int) : List Char := (toString count).toList

namespace Smell

/-- The header of the declarations that are looked at. -/
def header : Smell → Pattern
  | longFunction | manyParameters | highComplexity | deepNesting => functionHeader
  | largeClass => classHeader

/-- What is said about a declaration, if anything is wrong with it. -/
def draft? (lines : List Line) (declaration : Declaration) : Smell → Option Draft
  | longFunction => CodeSmell.longFunction lines declaration
  | manyParameters => CodeSmell.manyParameters lines declaration
  | highComplexity => CodeSmell.highComplexity lines (bodyOf lines declaration) declaration
  | deepNesting => CodeSmell.deepNesting lines (bodyOf lines declaration) declaration
  | largeClass => CodeSmell.largeClass lines declaration

/-- The number that tells the smell. -/
def value (lines : List Line) (declaration : Declaration) : Smell → Int
  | longFunction | largeClass => declaration.lineCount
  | manyParameters => parameterCount (lines.drop declaration.first)
  | highComplexity => complexity (bodyOf lines declaration)
  | deepNesting => nesting (bodyOf lines declaration)

/-- The largest number at which nothing is wrong. -/
def limit : Smell → Nat
  | longFunction => maxFunctionLines
  | manyParameters => maxParameters
  | highComplexity => maxComplexity
  | deepNesting => maxNesting
  | largeClass => maxClassLines

def rule : Smell → String
  | longFunction => "long-function"
  | manyParameters => "too-many-parameters"
  | highComplexity => "high-complexity"
  | deepNesting => "deep-nesting"
  | largeClass => "large-class"

def sentence : Smell → Sentence
  | longFunction => longFunctionText
  | manyParameters => manyParametersText
  | highComplexity => highComplexityText
  | deepNesting => deepNestingText
  | largeClass => largeClassText

def ofFunctions : List Smell := [longFunction, manyParameters, highComplexity, deepNesting]

end Smell

/-! ### Drafts -/

section Drafts

variable {lines : List Line} {declaration : Declaration} {draft : Draft} {smell : Smell}

theorem functionDrafts_eq (lines : List Line) (declaration : Declaration) :
    functionDrafts lines declaration = Smell.ofFunctions.filterMap (Smell.draft? lines declaration) := rfl

theorem Smell.header_of_mem (h : smell ∈ ofFunctions) : smell.header = functionHeader := by
  cases smell with
  | longFunction | manyParameters | highComplexity | deepNesting => rfl
  | largeClass => exact absurd h (by decide)

/-- Every draft tells a smell of a declaration. -/
theorem mem_rules_iff {text : List Char} : draft ∈ rules text ↔
    ∃ smell : Smell, ∃ declaration ∈ declarations smell.header (Text.lines text),
      smell.draft? (Text.lines text) declaration = some draft := by
  simp only [rules, List.mem_append, List.mem_flatMap, functionDrafts_eq, List.mem_filterMap]
  constructor
  · rintro (⟨function, hfunction, smell, hsmell, hdraft⟩ | ⟨type, htype, hdraft⟩)
    · exact ⟨smell, function, by rwa [Smell.header_of_mem hsmell], hdraft⟩
    · exact ⟨.largeClass, type, htype, hdraft⟩
  · rintro ⟨smell, declaration, hdeclared, hdraft⟩
    cases smell with
    | longFunction | manyParameters | highComplexity | deepNesting =>
      exact .inl ⟨declaration, hdeclared, _, by decide, hdraft⟩
    | largeClass => exact .inr ⟨declaration, hdeclared, hdraft⟩

/-- A draft about a declaration: it is named in the title, and the number is stated in the words of the sentence. -/
structure Smell.Says (smell : Smell) (lines : List Line) (declaration : Declaration) (draft : Draft) : Prop where
  beyond : (smell.limit : Int) < smell.value lines declaration
  rule : draft.rule = smell.rule
  title : draft.title = smell.sentence.opening ++ declaration.name
  text : draft.title.toList ++ ' ' :: draft.description.toList =
    smell.sentence.text declaration.name.toList (numeral (smell.value lines declaration))

theorem Smell.says_of_draft (h : smell.draft? lines declaration = some draft) :
    smell.Says lines declaration draft := by
  cases smell with
  | longFunction =>
    obtain ⟨hlong, hdraft⟩ := Option.ite_none_left_eq_some.1 h
    cases hdraft
    exact ⟨Int.lt_of_not_ge hlong, rfl, rfl, longFunctionText.text_eq _ _ rfl rfl rfl⟩
  | manyParameters =>
    obtain ⟨hmany, hdraft⟩ := Option.ite_none_left_eq_some.1 h
    cases hdraft
    exact ⟨Int.ofNat_lt.2 (Nat.lt_of_not_le hmany), rfl, rfl, manyParametersText.text_eq _ _ rfl rfl rfl⟩
  | highComplexity =>
    obtain ⟨hcomplex, hdraft⟩ := Option.ite_none_left_eq_some.1 h
    cases hdraft
    exact ⟨Int.ofNat_lt.2 (Nat.lt_of_not_le hcomplex), rfl, rfl, highComplexityText.text_eq _ _ rfl rfl rfl⟩
  | deepNesting =>
    obtain ⟨hdeep, hdraft⟩ := Option.ite_none_left_eq_some.1 h
    cases hdraft
    exact ⟨Int.ofNat_lt.2 (Nat.lt_of_not_le hdeep), rfl, rfl, deepNestingText.text_eq _ _ rfl rfl rfl⟩
  | largeClass =>
    obtain ⟨hlarge, hdraft⟩ := Option.ite_none_left_eq_some.1 h
    cases hdraft
    exact ⟨Int.lt_of_not_ge hlarge, rfl, rfl, largeClassText.text_eq _ _ rfl rfl rfl⟩

end Drafts

/-! ### Names and numbers -/

section Numbers

variable {lines : List Line} {declaration : Declaration} {count : Nat} {smell : Smell}

theorem numeral_ne_nil (count : Nat) : numeral count ≠ [] := Decimal.toString_toList_ne_nil count

theorem isDigit_of_mem_numeral : ∀ c ∈ numeral count, Text.isDigit c = true := by
  intro c hc
  rw [Text.isDigit, Decimal.digitValue?_of_isAsciiDigit (Decimal.isAsciiDigit_toString count c hc)]
  rfl

theorem Smell.isName (h : declaration ∈ declarations smell.header lines) : IsName declaration.name.toList := by
  cases smell with
  | longFunction | manyParameters | highComplexity | deepNesting => exact isName_of_function h
  | largeClass => exact isName_of_class h

theorem Smell.exists_value (h : declaration ∈ declarations smell.header lines) :
    ∃ count : Nat, smell.value lines declaration = count := by
  cases smell with
  | longFunction | largeClass => exact exists_lineCount h
  | manyParameters | highComplexity | deepNesting => exact ⟨_, rfl⟩

/-! ### The two scales -/

/-- What numbers are looked for in findings. -/
inductive Scale
  | complexity | length
deriving DecidableEq, Repr

def Scale.pattern : Scale → Pattern
  | complexity => complexityPattern
  | length => lengthPattern

/-- The scale that the number of a smell is on. -/
def Smell.scale? : Smell → Option Scale
  | longFunction | largeClass => some .length
  | highComplexity => some .complexity
  | manyParameters | deepNesting => none

/-- The lines leave no room for larger numbers. -/
theorem Smell.value_le (h : declaration ∈ declarations smell.header lines) (hscale : smell.scale? ≠ none) :
    smell.value lines declaration ≤ 1 + 2 * Text.expanse lines := by
  cases smell with
  | longFunction | largeClass =>
    have hcount := lineCount_le h
    have hlines := Text.length_le_expanse lines
    change declaration.lineCount ≤ _
    omega
  | highComplexity =>
    have hcount := complexity_le (bodyOf lines declaration)
    have hbody : Text.expanse (bodyOf lines declaration) ≤ Text.expanse lines :=
      Text.expanse_le_of_sublist ((List.drop_sublist _ _).trans (List.take_sublist _ _))
    change (complexity (bodyOf lines declaration) : Int) ≤ _
    omega
  | manyParameters | deepNesting => exact absurd rfl hscale

/-- A source of fewer characters than that has no number on a scale with too many digits to be read. -/
theorem Smell.length_numeral_le {text : List Char} (hsize : text.length < 10 ^ (Decimal.maxDigits - 1))
    (h : declaration ∈ declarations smell.header (Text.lines text)) (hscale : smell.scale? ≠ none) :
    (numeral (smell.value (Text.lines text) declaration)).length ≤ Decimal.maxDigits := by
  obtain ⟨count, hcount⟩ := smell.exists_value h
  have hvalue := smell.value_le h hscale
  have hlines := Text.expanse_lines_le text
  obtain ⟨exponent, hexponent⟩ := Nat.exists_eq_succ_of_ne_zero (show Decimal.maxDigits ≠ 0 by decide)
  have hbrief : count < 10 ^ Decimal.maxDigits := by
    rw [hcount] at hvalue
    rw [hexponent, Nat.succ_sub_one] at hsize
    rw [hexponent, Nat.pow_succ]
    omega
  rw [hcount]
  exact Nat.not_lt.1 fun hlong => (Decimal.maxDigits_lt_length_iff count).1 hlong hbrief

/-- What is found of a smell in its sentence: the digits that the name of a complex function begins with, if it
begins with any, and else the number. -/
def Smell.found (name number : List Char) : Smell → List Char
  | highComplexity =>
    if name.takeWhile Text.isDigit = [] then number else name.takeWhile Text.isDigit
  | longFunction | manyParameters | deepNesting | largeClass => number

/-- A pattern finds something in the sentences of the smells on its scale only. -/
theorem digitsIn?_sentence (smell : Smell) (scale : Scale) {name number : List Char} (hname : IsName name)
    (hne : number ≠ []) (hnumber : ∀ c ∈ number, Text.isDigit c = true) :
    digitsIn? scale.pattern (smell.sentence.text name number) =
      if smell.scale? = some scale then some (smell.found name number) else none := by
  cases scale with
  | complexity =>
    cases smell with
    | highComplexity => exact digitsIn?_complexity hname hne hnumber
    | longFunction | manyParameters | deepNesting | largeClass =>
      exact digitsIn?_complexity_of_quiet hname hnumber (by simp [Smell.sentence])
  | length =>
    cases smell with
    | longFunction | largeClass =>
      exact digitsIn?_length_of_lines hname hnumber hne (by simp [Smell.sentence])
    | manyParameters | highComplexity | deepNesting =>
      exact digitsIn?_length_of_quiet hname hnumber (by simp [Smell.sentence])

theorem Smell.found_eq {name number : List Char}
    (hstart : smell = .highComplexity → ∀ c ∈ name.head?, Text.isDigit c = false) :
    smell.found name number = number := by
  cases smell with
  | highComplexity =>
    have hnone : name.takeWhile Text.isDigit = [] := by
      cases name with
      | nil => rfl
      | cons c others => exact List.takeWhile_cons_of_neg (Bool.eq_false_iff.1 (hstart rfl c rfl))
    exact if_pos hnone
  | longFunction | manyParameters | deepNesting | largeClass => rfl

end Numbers

/-! ### Findings -/

/-- What is reported in a file. -/
def report (file : SourceFile) (text : List Char) : List Finding :=
  (rules text).map (·.finding "code-smell" .codeSmell file)

/-- A finding tells a smell of a declaration. -/
structure Smell.Reports (smell : Smell) (file : SourceFile) (lines : List Line) (declaration : Declaration)
    (finding : Finding) : Prop where
  declared : declaration ∈ declarations smell.header lines
  reported : (smell.draft? lines declaration).map (·.finding "code-smell" .codeSmell file) = some finding

section Findings

variable {file : SourceFile} {lines : List Line} {text : List Char} {declaration : Declaration}
  {finding : Finding} {smell : Smell}

theorem mem_report_iff : finding ∈ report file text ↔
    ∃ (smell : Smell) (declaration : Declaration),
      smell.Reports file (Text.lines text) declaration finding := by
  simp only [report, List.mem_map, mem_rules_iff]
  constructor
  · rintro ⟨draft, ⟨smell, declaration, hdeclared, hdraft⟩, rfl⟩
    exact ⟨smell, declaration, hdeclared, by rw [hdraft]; rfl⟩
  · rintro ⟨smell, declaration, hdeclared, hreported⟩
    obtain ⟨draft, hdraft, rfl⟩ := Option.map_eq_some_iff.1 hreported
    exact ⟨draft, ⟨smell, declaration, hdeclared, hdraft⟩, rfl⟩

theorem Smell.Reports.statement_eq (h : smell.Reports file lines declaration finding) :
    finding.statement = smell.sentence.text declaration.name.toList (numeral (smell.value lines declaration)) := by
  obtain ⟨draft, hdraft, rfl⟩ := Option.map_eq_some_iff.1 h.reported
  exact (Smell.says_of_draft hdraft).text

/-- All findings in a file tell smells of declarations, and what the patterns find in them is the number that they
state, each pattern on its own scale. -/
theorem numbers_read_back (isFile : FileTest) (file : SourceFile) {text : List Char}
    (hsize : text.length < 10 ^ (Decimal.maxDigits - 1)) :
    ∃ findings, analyzer.analyze isFile file text = .ok findings ∧
      (∀ finding, finding ∈ findings ↔ ∃ (smell : Smell) (declaration : Declaration),
        smell.Reports file (Text.lines text) declaration finding) ∧
      ∀ (smell : Smell) (declaration : Declaration) (finding : Finding),
        smell.Reports file (Text.lines text) declaration finding →
          finding.statement = smell.sentence.text declaration.name.toList
            (numeral (smell.value (Text.lines text) declaration)) ∧
          ((smell = .highComplexity → ∀ c ∈ declaration.name.toList.head?, Text.isDigit c = false) →
            ∀ scale : Scale, numberIn scale.pattern finding.statement = .ok
              (if smell.scale? = some scale then some (smell.value (Text.lines text) declaration)
              else none)) := by
  refine ⟨report file text, rfl, fun _ => mem_report_iff, fun smell declaration finding hreports =>
    ⟨hreports.statement_eq, fun hstart scale => ?_⟩⟩
  obtain ⟨count, hcount⟩ := smell.exists_value hreports.declared
  have hdigits := digitsIn?_sentence smell scale (smell.isName hreports.declared) (numeral_ne_nil count)
    isDigit_of_mem_numeral
  have hshort := smell.length_numeral_le hsize hreports.declared
  rw [hcount] at hshort
  rw [numberIn_eq_ok, hreports.statement_eq, hcount, hdigits, smell.found_eq hstart]
  split
  · next hscale =>
    refine ⟨fun digits hfound => ?_, ?_⟩
    · cases hfound
      exact hshort (hscale ▸ Option.some_ne_none scale)
    · exact congrArg (some ∘ Nat.cast) (Decimal.natOfDigits_toString count).symm
  · exact ⟨nofun, rfl⟩

/-- A class and two functions whose names are words that announce numbers. -/
def announcingText : List Char :=
  "class length \x7b\nfun of() = ".toList ++ (List.replicate 15 "a && ".toList).flatten ++
    "a\nfun lines() \x7b".toList ++ List.replicate 51 '\n' ++ ['\x7d'] ++
    List.replicate 250 '\n' ++ ['\x7d']

theorem numbers_read_back_announcing :
    let file : SourceFile := ⟨.ofText "/project/A.kt", "A.kt", 0, 0, none⟩
    announcingText.length < 10 ^ (Decimal.maxDigits - 1) ∧
      ∃ findings, analyzer.analyze (fun _ => .ok false) file announcingText = .ok findings ∧
        (∃ finding ∈ findings, finding.title = "High Cyclomatic Complexity: of" ∧
          numberIn complexityPattern finding.statement = .ok (some 16)) ∧
        (∃ finding ∈ findings, finding.title = "Long Function: lines" ∧
          numberIn lengthPattern finding.statement = .ok (some 52)) ∧
        ∃ finding ∈ findings, finding.title = "Large Class: length" ∧
          numberIn lengthPattern finding.statement = .ok (some 304) := by
  intro file
  have hsize : announcingText.length < 10 ^ (Decimal.maxDigits - 1) := by decide +kernel
  obtain ⟨findings, hanalyze, hmem, hnumbers⟩ := numbers_read_back (fun _ => .ok false) file hsize
  have hfound : ∀ (smell : Smell) (declaration : Declaration) (scale : Scale) (value : Int),
      declaration ∈ declarations smell.header (Text.lines announcingText) →
      (smell.draft? (Text.lines announcingText) declaration).isSome = true →
      declaration.name.toList.head?.any Text.isDigit = false → smell.scale? = some scale →
      smell.value (Text.lines announcingText) declaration = value →
        ∃ finding ∈ findings, finding.title = smell.sentence.opening ++ declaration.name ∧
          numberIn scale.pattern finding.statement = .ok (some value) := by
    rintro smell declaration scale _ hdeclared hsome hstart hscale rfl
    obtain ⟨draft, hdraft⟩ := Option.isSome_iff_exists.1 hsome
    have hreports : smell.Reports file (Text.lines announcingText) declaration
        (draft.finding "code-smell" .codeSmell file) := ⟨hdeclared, by rw [hdraft]; rfl⟩
    refine ⟨_, (hmem _).2 ⟨smell, declaration, hreports⟩, (smell.says_of_draft hdraft).title, ?_⟩
    rw [(hnumbers smell declaration _ hreports).2 (fun _ => (Option.any_eq_false _ _).1 hstart) scale, if_pos hscale]
  exact ⟨hsize, findings, hanalyze,
    hfound .highComplexity ⟨"of", 1, 1⟩ .complexity 16 (by decide +kernel) (by decide +kernel)
      (by decide +kernel) rfl (by decide +kernel),
    hfound .longFunction ⟨"lines", 2, 53⟩ .length 52 (by decide +kernel) (by decide +kernel)
      (by decide +kernel) rfl (by decide +kernel),
    hfound .largeClass ⟨"length", 0, 303⟩ .length 304 (by decide +kernel) (by decide +kernel)
      (by decide +kernel) rfl (by decide +kernel)⟩

end Findings

end Rule.CodeSmell

end KotlinAudit
