import KotlinAudit.Proofs.Rule.Smell

/-! What averages are made of. The counts of code smells are read off their texts, and a text counts by the words
that its title mentions. So an average is the mean of the counts of one kind, of those of another kind whose names
mention the words, and, for a complex function whose name begins with digits, of these. -/
namespace KotlinAudit

open Decimal (Binary64)

namespace Rule.CodeSmell

open Metrics
open Source
open Text (Line)

/-! ### Drafts -/

/-- Whether a title mentions some words, in whatever case. -/
def mentions (words : List String) (title : String) : Bool :=
  words.all fun word => Text.contains word.toList (Text.lower title.toList)

/-- What an average reads off a draft. -/
def readOff (pattern : Pattern) (words : List String) (draft : Draft) : Option (List Char) :=
  if mentions words draft.title then
    digitsIn? pattern (draft.title.toList ++ ' ' :: draft.description.toList)
  else none

theorem scraped_drafts (pattern : Pattern) (words : List String) (drafts : List Draft) (analyzer : String)
    (file : SourceFile) : scraped pattern words (drafts.map (·.finding analyzer .codeSmell file)) =
      drafts.filterMap (readOff pattern words) := by
  rw [scraped, smells, List.filterMap_filter, List.filterMap_map]
  refine List.filterMap_congr fun draft _ => ?_
  rfl

/-! ### Titles -/

/-- Words at the start of a title are mentioned, whatever comes behind them. -/
theorem mentions_of_start {words : List String} {title : String} {start : List Char}
    (hlower : ∃ rest, Text.lower title.toList = start ++ rest)
    (hwords : words.all (fun word => Text.contains word.toList start) = true) :
    mentions words title = true := by
  obtain ⟨rest, hlower⟩ := hlower
  rw [mentions, hlower, List.all_eq_true]
  exact fun word hword => Text.contains_iff.2
    ((Text.contains_iff.1 (List.all_eq_true.1 hwords word hword)).trans (List.prefix_append _ rest).isInfix)

theorem mentions_longFunction (name : String) :
    mentions ["function", "long"] s!"Long Function: {name}" = true := by
  refine @mentions_of_start _ _ "long function: ".toList ?_ (by decide)
  rw [String.toList_append]
  exact ⟨_, rfl⟩

theorem mentions_largeClass (name : String) :
    mentions ["class", "large"] s!"Large Class: {name}" = true := by
  refine @mentions_of_start _ _ "large class: ".toList ?_ (by decide)
  rw [String.toList_append]
  exact ⟨_, rfl⟩

theorem mentions_highComplexity (name : String) :
    mentions ["complexity"] s!"High Cyclomatic Complexity: {name}" = true := by
  refine @mentions_of_start _ _ "high cyclomatic complexity: ".toList ?_ (by decide)
  rw [String.toList_append]
  exact ⟨_, rfl⟩

/-! ### What is read off the drafts -/

section Drafts

variable {pattern : Pattern} {words : List String} {lines : List Line} {declaration : Declaration}
  {smell : Smell} {scale : Scale}

theorem bind_readOff (h : declaration ∈ declarations smell.header lines) :
    (smell.draft? lines declaration).bind (readOff scale.pattern words) =
      if ((smell.draft? lines declaration).isSome ∧
          mentions words (smell.sentence.opening ++ declaration.name)) ∧ smell.scale? = some scale then
        some (smell.found declaration.name.toList (numeral (smell.value lines declaration)))
      else none := by
  obtain ⟨count, hcount⟩ := smell.exists_value h
  have hdigits := digitsIn?_sentence smell scale (smell.isName h) (numeral_ne_nil count)
    isDigit_of_mem_numeral
  cases hdraft : smell.draft? lines declaration with
  | none => rw [Option.bind_none, if_neg fun h => Bool.false_ne_true h.1.1]
  | some draft =>
    have hsays := smell.says_of_draft hdraft
    rw [Option.bind_some, readOff, hsays.text, hsays.title, hcount, hdigits, Option.isSome_some, ite_and]
    simp only [true_and]

/-- What is said about a declaration counts on the scale of the smell, if its title mentions the words. -/
theorem bind_of_scale (h : declaration ∈ declarations smell.header lines) (hscale : smell.scale? = some scale) :
    (smell.draft? lines declaration).bind (readOff scale.pattern words) =
      if (smell.draft? lines declaration).isSome ∧
          mentions words (smell.sentence.opening ++ declaration.name) then
        some (smell.found declaration.name.toList (numeral (smell.value lines declaration)))
      else none := by
  rw [bind_readOff h]
  simp only [hscale, and_true]

theorem bind_of_scale_ne (h : declaration ∈ declarations smell.header lines) (hscale : smell.scale? ≠ some scale) :
    (smell.draft? lines declaration).bind (readOff scale.pattern words) = none := by
  rw [bind_readOff h, if_neg fun hread => hscale hread.2]

theorem filterMap_of_mem {α β : Type} {read : α → Option β} {items : List α} {item : α}
    (hnodup : items.Nodup) (hitem : item ∈ items)
    (hnone : ∀ other ∈ items, other ≠ item → read other = none) :
    items.filterMap read = (read item).toList := by
  induction items with
  | nil => exact absurd hitem List.not_mem_nil
  | cons first rest ih =>
    obtain ⟨hfirst, hrest⟩ := List.nodup_cons.1 hnodup
    obtain ⟨hnone, hothers⟩ := List.forall_mem_cons.1 hnone
    rcases List.mem_cons.1 hitem with rfl | hitem
    · have hnothing : rest.filterMap read = [] := List.filterMap_eq_nil_iff.2 fun other hother =>
        hothers other hother (ne_of_mem_of_not_mem hother hfirst)
      rw [List.filterMap_cons, hnothing]
      cases read item with
      | none => rfl
      | some value => rfl
    · rw [List.filterMap_cons_none (hnone (ne_of_mem_of_not_mem hitem hfirst).symm), ih hrest hitem hothers]

/-- Of the drafts about a function only the one on the scale counts. -/
theorem filterMap_functionDrafts (h : declaration ∈ declarations functionHeader lines)
    (hsmell : smell ∈ Smell.ofFunctions) (hscale : smell.scale? = some scale)
    (hothers : ∀ other ∈ Smell.ofFunctions, other ≠ smell → other.scale? ≠ some scale) :
    (functionDrafts lines declaration).filterMap (readOff scale.pattern words) =
      if (smell.draft? lines declaration).isSome ∧
          mentions words (smell.sentence.opening ++ declaration.name) then
        [smell.found declaration.name.toList (numeral (smell.value lines declaration))]
      else [] := by
  have hnone : ∀ other ∈ Smell.ofFunctions, other ≠ smell →
      (other.draft? lines declaration).bind (readOff scale.pattern words) = none := fun other hother hne =>
    bind_of_scale_ne (by rwa [Smell.header_of_mem hother]) (hothers other hother hne)
  rw [functionDrafts_eq, List.filterMap_filterMap, filterMap_of_mem (by decide) hsmell hnone,
    bind_of_scale (by rwa [Smell.header_of_mem hsmell]) hscale, apply_ite Option.toList]
  rfl

theorem filterMap_rules (text : List Char) : (rules text).filterMap (readOff pattern words) =
    (declarations functionHeader (Text.lines text)).flatMap (fun function =>
      (functionDrafts (Text.lines text) function).filterMap (readOff pattern words)) ++
    (declarations classHeader (Text.lines text)).filterMap fun type =>
      (largeClass (Text.lines text) type).bind (readOff pattern words) := by
  unfold rules
  rw [List.filterMap_append, List.filterMap_flatMap, List.filterMap_filterMap]

end Drafts

/-! ### Counts -/

section Counts

variable {words : List String} {lines : List Line} {declaration : Declaration}

/-- Of a function only the count of its lines is read off as a length. -/
theorem lengths_of_function (h : declaration ∈ declarations functionHeader lines) :
    (functionDrafts lines declaration).filterMap (readOff lengthPattern words) =
      if (longFunction lines declaration).isSome ∧
          mentions words s!"Long Function: {declaration.name}" then [numeral declaration.lineCount]
      else [] :=
  @filterMap_functionDrafts words lines declaration .longFunction .length h (by decide) rfl (by decide)

/-- Of a class the count of its lines is read off as a length. -/
theorem length_of_class (h : declaration ∈ declarations classHeader lines) :
    (largeClass lines declaration).bind (readOff lengthPattern words) =
      if (largeClass lines declaration).isSome ∧ mentions words s!"Large Class: {declaration.name}" then
        some (numeral declaration.lineCount)
      else none := @bind_of_scale words lines declaration .largeClass .length h rfl

/-- The number that is read off as the complexity of a function: the digits that its name begins with, if it
begins with any. -/
def complexityNumeral (lines : List Line) (function : Declaration) : List Char :=
  if function.name.toList.takeWhile Text.isDigit = [] then numeral (complexity (bodyOf lines function))
  else function.name.toList.takeWhile Text.isDigit

theorem complexities_of_function (h : declaration ∈ declarations functionHeader lines) :
    (functionDrafts lines declaration).filterMap (readOff complexityPattern ["complexity"]) =
      if (highComplexity lines (bodyOf lines declaration) declaration).isSome then
        [complexityNumeral lines declaration]
      else [] := by
  have hcomplexities := @filterMap_functionDrafts ["complexity"] lines declaration .highComplexity .complexity h
    (by decide) rfl (by decide)
  have hmentions : mentions ["complexity"] (Smell.highComplexity.sentence.opening ++ declaration.name) = true :=
    mentions_highComplexity declaration.name
  simp only [hmentions, and_true] at hcomplexities
  exact hcomplexities

theorem complexity_of_class (h : declaration ∈ declarations classHeader lines) :
    (largeClass lines declaration).bind (readOff complexityPattern words) = none :=
  @bind_of_scale_ne words lines declaration .largeClass .complexity h nofun

end Counts

/-! ### Averages -/

/-- The functions reported as long. -/
def longFunctions (lines : List Line) : List Declaration :=
  (declarations functionHeader lines).filter fun function => (longFunction lines function).isSome

/-- The functions reported as highly complex. -/
def complexFunctions (lines : List Line) : List Declaration :=
  (declarations functionHeader lines).filter fun function =>
    (highComplexity lines (bodyOf lines function) function).isSome

/-- The classes reported as large. -/
def largeClasses (lines : List Line) : List Declaration :=
  (declarations classHeader lines).filter fun type => (largeClass lines type).isSome

theorem filterMap_ite {α β : Type} (keeps : α → Prop) [DecidablePred keeps] (value : α → β)
    (items : List α) : (items.filterMap fun item => if keeps item then some (value item) else none) =
      (items.filter (keeps ·)).map value := by
  rw [← List.filterMap_eq_filter, List.map_filterMap]
  refine List.filterMap_congr fun item _ => ?_
  rw [Option.guard_apply, apply_ite (Option.map value)]
  simp only [decide_eq_true_eq, Option.map_some, Option.map_none]

theorem flatMap_ite {α β : Type} (keeps : α → Prop) [DecidablePred keeps] (value : α → β)
    (items : List α) : (items.flatMap fun item => if keeps item then [value item] else []) =
      (items.filter (keeps ·)).map value := by
  rw [← filterMap_ite, List.filterMap_eq_flatMap_toList]
  refine List.flatMap_congr fun item _ => ?_
  split
  · rfl
  · rfl

/-- The declarations whose line counts make up an average of lengths. -/
def measured (words : List String) (lines : List Line) : List Declaration :=
  (longFunctions lines).filter (fun function => mentions words s!"Long Function: {function.name}") ++
    (largeClasses lines).filter fun type => mentions words s!"Large Class: {type.name}"

theorem filterMap_lengths (words : List String) (text : List Char) :
    (rules text).filterMap (readOff lengthPattern words) =
      (measured words (Text.lines text)).map fun declaration => numeral declaration.lineCount := by
  have hfunctions := List.flatMap_congr fun function hfunction =>
    @lengths_of_function words (Text.lines text) function hfunction
  have hclasses := List.filterMap_congr fun type htype =>
    @length_of_class words (Text.lines text) type htype
  rw [filterMap_rules, hfunctions, hclasses, flatMap_ite, filterMap_ite, measured, longFunctions,
    largeClasses, List.filter_filter, List.filter_filter, List.map_append]
  simp only [Bool.decide_and, Bool.decide_eq_true, Bool.and_comm]

theorem filterMap_complexities (text : List Char) :
    (rules text).filterMap (readOff complexityPattern ["complexity"]) =
      (complexFunctions (Text.lines text)).map (complexityNumeral (Text.lines text)) := by
  have hfunctions := List.flatMap_congr fun function hfunction =>
    @complexities_of_function (Text.lines text) function hfunction
  have hclasses := List.filterMap_congr fun type htype =>
    @complexity_of_class ["complexity"] (Text.lines text) type htype
  rw [filterMap_rules, hfunctions, hclasses, flatMap_ite, complexFunctions, List.filterMap_none,
    List.append_nil]
  simp only [Bool.decide_eq_true]

/-! ### The averages of what is reported -/

section Report

variable {text : List Char} {file : SourceFile} {mean : Binary64}

theorem values_lengths {declared : List Declaration}
    (h : ∀ declaration ∈ declared, ∃ count : Nat, declaration.lineCount = count) :
    values (declared.map fun declaration => numeral declaration.lineCount) =
      declared.map (·.lineCount) := by
  rw [values, List.map_map]
  refine List.map_congr_left fun declaration hdeclaration => ?_
  obtain ⟨count, hcount⟩ := h declaration hdeclaration
  change (Decimal.natOfDigits (numeral declaration.lineCount) : Int) = declaration.lineCount
  rw [hcount]
  exact congrArg Nat.cast (Decimal.natOfDigits_toString count)

theorem exists_lineCount_of_measured {words : List String} {lines : List Line} :
    ∀ declaration ∈ measured words lines, ∃ count : Nat, declaration.lineCount = count := by
  intro declaration h
  rcases List.mem_append.1 h with h | h
  · exact exists_lineCount (List.mem_of_mem_filter (List.mem_of_mem_filter h))
  · exact exists_lineCount (List.mem_of_mem_filter (List.mem_of_mem_filter h))

theorem averageOf_lengths (words : List String) : averageOf lengthPattern words (report file text) = .ok mean ↔
    (∀ declaration ∈ measured words (Text.lines text),
      (numeral declaration.lineCount).length ≤ Decimal.maxDigits) ∧
      IsMean ((measured words (Text.lines text)).map (·.lineCount)) mean := by
  rw [averageOf_eq_ok, report, scraped_drafts, filterMap_lengths, List.forall_mem_map,
    values_lengths exists_lineCount_of_measured]

/-- The complexity that is read off what is said about a function. -/
def complexityRead (lines : List Line) (function : Declaration) : Int :=
  if function.name.toList.takeWhile Text.isDigit = [] then complexity (bodyOf lines function)
  else Decimal.natOfDigits (function.name.toList.takeWhile Text.isDigit)

theorem averageOf_complexities : averageOf complexityPattern ["complexity"] (report file text) = .ok mean ↔
    (∀ function ∈ complexFunctions (Text.lines text),
      (complexityNumeral (Text.lines text) function).length ≤ Decimal.maxDigits) ∧
      IsMean ((complexFunctions (Text.lines text)).map (complexityRead (Text.lines text))) mean := by
  have hvalues : values ((complexFunctions (Text.lines text)).map (complexityNumeral (Text.lines text))) =
      (complexFunctions (Text.lines text)).map (complexityRead (Text.lines text)) := by
    rw [values, List.map_map]
    refine List.map_congr_left fun function _ => ?_
    change (Decimal.natOfDigits (complexityNumeral (Text.lines text) function) : Int) = _
    rw [complexityNumeral, complexityRead]
    split
    · exact congrArg Nat.cast (Decimal.natOfDigits_toString _)
    · rfl
  rw [averageOf_eq_ok, report, scraped_drafts, filterMap_complexities, List.forall_mem_map, hvalues]

end Report

/-- The line counts that make up the average length of functions: those of the functions reported as long, and
those of the classes reported as large whose titles speak of long functions. -/
def functionLengths (lines : List Line) : List Int :=
  (longFunctions lines ++ (largeClasses lines).filter fun type =>
    mentions ["function", "long"] s!"Large Class: {type.name}").map (·.lineCount)

/-- The line counts that make up the average length of classes: those of the classes reported as large, and those
of the functions reported as long whose titles speak of large classes. -/
def classLengths (lines : List Line) : List Int :=
  ((longFunctions lines).filter (fun function =>
    mentions ["class", "large"] s!"Long Function: {function.name}") ++ largeClasses lines).map (·.lineCount)

/-- The numbers that make up the average complexity. -/
def complexities (lines : List Line) : List Int := (complexFunctions lines).map (complexityRead lines)

/-- All numbers in what is reported can be read. -/
structure Legible (lines : List Line) : Prop where
  lengths : ∀ declaration ∈ longFunctions lines ++ largeClasses lines,
    (numeral declaration.lineCount).length ≤ Decimal.maxDigits
  complexities : ∀ function ∈ complexFunctions lines,
    (complexityNumeral lines function).length ≤ Decimal.maxDigits

theorem measured_function (lines : List Line) : measured ["function", "long"] lines =
    longFunctions lines ++ (largeClasses lines).filter fun type =>
      mentions ["function", "long"] s!"Large Class: {type.name}" := by
  rw [measured, List.filter_eq_self.2 fun function _ => mentions_longFunction function.name]

theorem measured_class (lines : List Line) : measured ["class", "large"] lines =
    (longFunctions lines).filter (fun function =>
      mentions ["class", "large"] s!"Long Function: {function.name}") ++ largeClasses lines := by
  have hall : (largeClasses lines).filter (fun type =>
      mentions ["class", "large"] s!"Large Class: {type.name}") = largeClasses lines :=
    List.filter_eq_self.2 fun type _ => mentions_largeClass type.name
  rw [measured, hall]

/-- The averages of what is reported in a file are the means of these numbers. -/
theorem averages_of_report (isFile : FileTest) (file : SourceFile) (text : List Char) :
    ∃ findings, analyzer.analyze isFile file text = .ok findings ∧
      ∀ complexity functionLength classLength : Binary64,
        (∃ metrics, Metrics.ofFindings findings = .ok metrics ∧ metrics.averageComplexity = complexity ∧
          metrics.averageFunctionLength = functionLength ∧ metrics.averageClassLength = classLength) ↔
        Legible (Text.lines text) ∧ IsMean (complexities (Text.lines text)) complexity ∧
          IsMean (functionLengths (Text.lines text)) functionLength ∧
          IsMean (classLengths (Text.lines text)) classLength := by
  refine ⟨report file text, rfl, fun complexity functionLength classLength => ?_⟩
  rw [exists_ofFindings_averages_iff, averageOf_complexities, averageOf_lengths, averageOf_lengths,
    measured_function, measured_class]
  -- What one average takes from the other kind is among the counts of that kind.
  constructor
  · rintro ⟨⟨hcomplexities, hcomplexity⟩, ⟨hfunctions, hfunction⟩, hclasses, hclass⟩
    refine ⟨⟨List.forall_mem_append.2 ⟨?_, ?_⟩, hcomplexities⟩, hcomplexity, hfunction, hclass⟩
    · exact (List.forall_mem_append.1 hfunctions).1
    · exact (List.forall_mem_append.1 hclasses).2
  · rintro ⟨⟨hlengths, hcomplexities⟩, hcomplexity, hfunction, hclass⟩
    obtain ⟨hlong, hlarge⟩ := List.forall_mem_append.1 hlengths
    refine ⟨⟨hcomplexities, hcomplexity⟩, ⟨List.forall_mem_append.2 ⟨hlong, ?_⟩, hfunction⟩,
      List.forall_mem_append.2 ⟨?_, hlarge⟩, hclass⟩
    · exact fun type htype => hlarge type (List.mem_of_mem_filter htype)
    · exact fun function hfunction => hlong function (List.mem_of_mem_filter hfunction)

/-- A class whose name speaks of long functions, around a function whose name begins with a number and another one
whose name speaks of large classes. -/
def crowdedText : List Char :=
  "class LongFunctionTable \x7b\nfun 7f() = ".toList ++ (List.replicate 15 "a && ".toList).flatten ++
    "a\nfun buildLargeClass() \x7b".toList ++ List.replicate 51 '\n' ++ ['\x7d'] ++
    List.replicate 250 '\n' ++ ['\x7d']

def crowdedFile : SourceFile := ⟨.ofText "/project/A.kt", "A.kt", 0, 0, none⟩

/-- Names can make all averages wrong. -/
theorem averages_of_crowded : ∃ findings metrics,
    analyzer.analyze (fun _ => .ok false) crowdedFile crowdedText = .ok findings ∧
      Metrics.ofFindings findings = .ok metrics ∧
      ¬IsMean ((longFunctions (Text.lines crowdedText)).map (·.lineCount)) metrics.averageFunctionLength ∧
      ¬IsMean ((largeClasses (Text.lines crowdedText)).map (·.lineCount)) metrics.averageClassLength ∧
      ¬IsMean ((complexFunctions (Text.lines crowdedText)).map fun function =>
        (complexity (bodyOf (Text.lines crowdedText) function) : Int)) metrics.averageComplexity := by
  have hlong : longFunctions (Text.lines crowdedText) = [⟨"buildLargeClass", 2, 53⟩] := by decide +kernel
  have hlarge : largeClasses (Text.lines crowdedText) = [⟨"LongFunctionTable", 0, 303⟩] := by
    decide +kernel
  have hcomplex : complexFunctions (Text.lines crowdedText) = [⟨"7f", 1, 1⟩] := by decide +kernel
  -- Both titles mention the words of both kinds, so the two lengths are averaged together.
  have hmeasured : ∀ words ∈ [["function", "long"], ["class", "large"]],
      measured words (Text.lines crowdedText) =
        [⟨"buildLargeClass", 2, 53⟩, ⟨"LongFunctionTable", 0, 303⟩] := by
    intro words hwords
    rw [measured, hlong, hlarge]
    revert words
    decide +kernel
  have hmean : ∀ words ∈ [["function", "long"], ["class", "large"]],
      averageOf lengthPattern words (report crowdedFile crowdedText) = .ok (.ofRat 178) := by
    intro words hwords
    rw [averageOf_lengths, hmeasured words hwords]
    decide +kernel
  have hdigits : averageOf complexityPattern ["complexity"] (report crowdedFile crowdedText) =
      .ok (.ofRat 7) := by
    rw [averageOf_complexities, hcomplex]
    decide +kernel
  obtain ⟨metrics, hmetrics, hcomplexity, hfunction, hclass⟩ := exists_ofFindings_averages_iff.2
    ⟨hdigits, hmean _ List.mem_cons_self, hmean _ (List.mem_cons_of_mem _ List.mem_cons_self)⟩
  refine ⟨report crowdedFile crowdedText, metrics, rfl, hmetrics, ?_⟩
  rw [hcomplexity, hfunction, hclass, hlong, hlarge, hcomplex]
  decide +kernel

end Rule.CodeSmell

end KotlinAudit
