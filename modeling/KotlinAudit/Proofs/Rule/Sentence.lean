import KotlinAudit.Proofs.Decimal.Numeral
import KotlinAudit.Proofs.Metrics.Stated
import KotlinAudit.Proofs.Source.Declaration
import KotlinAudit.Rule.CodeSmell

/-! What is read off the texts of code smells. Such a text names a declaration twice and states one number; the
name is a word, so it cannot be taken for what announces the number. Only where a word announces a number right
before the name, the name can begin with a number of its own. -/
namespace KotlinAudit.Rule.CodeSmell

open Pattern
open Source (IsName)
open Text (Free)

theorem free_of_isName {name : List Char} (h : IsName name) : Free isGlue name :=
  fun c hc => isGlue_of_isWord (h.word c hc)

def quoted (name : List Char) : List Char := '\'' :: (name ++ ['\''])

theorem free_quoted {name : List Char} (h : Free isGlue name) : Free isGlue (quoted name) :=
  .cons (by decide) (h.append (by decide))

/-- The title and the description of a code smell, up to the name, between name and name, up to the number, and
what is behind it. -/
structure Sentence where
  opening : String
  subject : String
  predicate : String
  attached : String
  closing : String

/-- A blank comes, and then no glue and nothing that a sign announces. -/
def goesOn (starts : Char → Bool) : List Char → Bool
  | ' ' :: c :: _ => !isGlue c && !starts c
  | _ => false

/-- A sign does not occur, neither as a whole nor cut off at the end. -/
def lacks (sign : Pattern) (text : String) : Bool :=
  !(seq sign (char isGlue)).occursIn text.toList && text.toList.getLast?.any isGlue

namespace Sentence

variable (sentence : Sentence) (name number : List Char)

/-- What comes before the number. -/
def front : List Char :=
  sentence.opening.toList ++ (name ++ (sentence.subject.toList ++
    (quoted name ++ sentence.predicate.toList)))

/-- What comes from the number on. -/
def back : List Char := (number ++ sentence.attached.toList) ++ sentence.closing.toList

def text : List Char := sentence.front name ++ sentence.back number

/-- Nothing before the number is announced by a sign. -/
def quietBefore (sign : Pattern) (starts : Char → Bool) : Bool :=
  lacks sign sentence.opening && lacks sign sentence.subject && lacks sign sentence.predicate &&
    goesOn starts sentence.subject.toList && goesOn starts sentence.predicate.toList

/-- Neither the number nor what is behind it is announced by a sign. -/
def quietBehind (sign : Pattern) (starts : Char → Bool) : Bool :=
  decide (Free isGlue sentence.attached.toList) && goesOn starts sentence.closing.toList &&
    !(seq sign (char isGlue)).occursIn sentence.closing.toList

end Sentence

/-- A title and a description in the words of a sentence. -/
theorem Sentence.text_eq (sentence : Sentence) (name number : String) {subject predicate tail more : String}
    (hsubject : ' ' :: subject.toList = sentence.subject.toList ++ ['\''])
    (hpredicate : predicate.toList = '\'' :: sentence.predicate.toList)
    (hclosing : (tail ++ more).toList = sentence.attached.toList ++ sentence.closing.toList) :
    (sentence.opening ++ name).toList ++
        ' ' :: (subject ++ name ++ predicate ++ number ++ tail ++ more).toList =
      sentence.text name.toList number.toList := by
  rw [Sentence.text, Sentence.front, Sentence.back, quoted]
  rw [String.toList_append] at hclosing
  simp only [String.toList_append, List.append_assoc, hpredicate, hclosing]
  rw [← List.cons_append, hsubject]
  simp only [List.append_assoc, List.cons_append, List.nil_append]

section Calm

variable {pattern sign : Pattern} {starts : Char → Bool} (h : pattern.Announced sign starts)
  {sentence : Sentence} {name number : List Char}

include h

theorem calm_of_goesOn {word text rest : List Char} (hword : Free isGlue word)
    (htext : goesOn starts text = true) : pattern.Calm word (text ++ rest) := by
  unfold goesOn at htext
  split at htext
  · next c others =>
    rw [Bool.and_eq_true, Bool.not_eq_true', Bool.not_eq_true'] at htext
    exact h.calm_word hword (by decide) htext.1 htext.2
  · cases htext

theorem calm_of_lacks {text : String} {rest : List Char} (htext : lacks sign text = true) :
    pattern.Calm text.toList rest := by
  rw [lacks, Bool.and_eq_true, Bool.not_eq_true'] at htext
  exact h.calm_text htext.1 (.inr htext.2)

theorem calm_front (hquiet : sentence.quietBefore sign starts = true) (hname : Free isGlue name)
    (rest : List Char) : pattern.Calm (sentence.front name) rest := by
  simp only [Sentence.quietBefore, Bool.and_eq_true] at hquiet
  obtain ⟨⟨⟨⟨hopening, hsubject⟩, hpredicate⟩, hgoes⟩, hgoes'⟩ := hquiet
  refine (calm_of_lacks h hopening).append (Calm.append ?_ (.append (calm_of_lacks h hsubject)
    (.append (calm_of_goesOn h (free_quoted hname) hgoes') (calm_of_lacks h hpredicate))))
  rw [List.append_assoc]
  exact calm_of_goesOn h hname hgoes

/-- Where nothing is announced, nothing is read off. -/
theorem digitsIn?_of_quiet (hquiet : sentence.quietBefore sign starts = true)
    (hbehind : sentence.quietBehind sign starts = true) (hname : Free isGlue name)
    (hnumber : Free isGlue number) : digitsIn? pattern (sentence.text name number) = none := by
  simp only [Sentence.quietBehind, Bool.and_eq_true, decide_eq_true_eq, Bool.not_eq_true'] at hbehind
  obtain ⟨⟨hattached, hgoes⟩, hclosing⟩ := hbehind
  refine digitsIn?_of_calm h ((calm_front h hquiet hname _).append (Calm.append ?_ ?_))
  · exact calm_of_goesOn h (hnumber.append hattached) hgoes
  · exact h.calm_text hclosing (.inl rfl)

end Calm

/-! ### The code smells -/

def longFunctionText : Sentence where
  opening := "Long Function: "
  subject := " Function "
  predicate := " has "
  attached := ""
  closing := " lines, exceeding the " ++ s!"recommended maximum of {maxFunctionLines}."

def manyParametersText : Sentence where
  opening := "Too Many Parameters: "
  subject := " Function "
  predicate := " declares "
  attached := ""
  closing := " parameters, exceeding the " ++ s!"recommended maximum of {maxParameters}."

def highComplexityText : Sentence where
  opening := "High Cyclomatic Complexity: "
  subject := " Function "
  predicate := " has a cyclomatic complexity of "
  attached := ","
  closing := " " ++ s!"exceeding the recommended maximum of {maxComplexity}."

def deepNestingText : Sentence where
  opening := "Deep Nesting: "
  subject := " Function "
  predicate := " has a maximum nesting depth of "
  attached := ","
  closing := " exceeding " ++ s!"the recommended maximum of {maxNesting}."

def largeClassText : Sentence where
  opening := "Large Class: "
  subject := " Class "
  predicate := " has "
  attached := ""
  closing := " lines, exceeding the recommended " ++ s!"maximum of {maxClassLines}."

section Digits

variable {name number : List Char} (hname : IsName name) (hnumber : ∀ c ∈ number, Text.isDigit c = true)

include hname hnumber

theorem digitsIn?_complexity_of_quiet {sentence : Sentence}
    (hsentence : sentence ∈ [longFunctionText, manyParametersText, deepNestingText, largeClassText]) :
    digitsIn? complexityPattern (sentence.text name number) = none := by
  have hquiet : ∀ sentence ∈ [longFunctionText, manyParametersText, deepNestingText, largeClassText],
      sentence.quietBefore complexitySign startsComplexity = true ∧
        sentence.quietBehind complexitySign startsComplexity = true := by decide +kernel
  obtain ⟨hbefore, hbehind⟩ := hquiet sentence hsentence
  exact digitsIn?_of_quiet announced_complexity hbefore hbehind (free_of_isName hname)
    fun c hc => isGlue_of_isDigit (hnumber c hc)

theorem digitsIn?_length_of_quiet {sentence : Sentence}
    (hsentence : sentence ∈ [manyParametersText, highComplexityText, deepNestingText]) :
    digitsIn? lengthPattern (sentence.text name number) = none := by
  have hquiet : ∀ sentence ∈ [manyParametersText, highComplexityText, deepNestingText],
      sentence.quietBefore lengthSign startsLength = true ∧
        sentence.quietBehind lengthSign startsLength = true := by decide +kernel
  obtain ⟨hbefore, hbehind⟩ := hquiet sentence hsentence
  exact digitsIn?_of_quiet announced_length hbefore hbehind (free_of_isName hname)
    fun c hc => isGlue_of_isDigit (hnumber c hc)

/-- A count of lines is read off as it is. -/
theorem digitsIn?_length_of_lines {sentence : Sentence} (hne : number ≠ [])
    (hsentence : sentence ∈ [longFunctionText, largeClassText]) :
    digitsIn? lengthPattern (sentence.text name number) = some number := by
  have hquiet : ∀ sentence ∈ [longFunctionText, largeClassText],
      sentence.quietBefore lengthSign startsLength = true := by decide +kernel
  have hback : ∃ rest, sentence.back number = number ++ ' ' :: ("lines".toList ++ rest) := by
    rw [Sentence.back]
    simp only [List.mem_cons, List.not_mem_nil, or_false] at hsentence
    rcases hsentence with rfl | rfl
    · exact ⟨_, by rw [show longFunctionText.attached.toList = [] from rfl, List.append_nil]; rfl⟩
    · exact ⟨_, by rw [show largeClassText.attached.toList = [] from rfl, List.append_nil]; rfl⟩
  obtain ⟨rest, hrest⟩ := hback
  have hcalm := calm_front announced_length (hquiet sentence hsentence) (free_of_isName hname)
    (sentence.back number)
  rw [hrest] at hcalm
  rw [Sentence.text, hrest]
  exact digitsIn?_lineCount hne hnumber hcalm

end Digits

/-! ### Stated complexities

The title of a complex function announces a number right before the name. -/

section Complexity

/-- What is said of a complex function. -/
def complexityBehind (number : List Char) : List Char :=
  "complexity".toList ++ ([' '] ++ ("of".toList ++ ([' '] ++
    (number ++ (highComplexityText.attached.toList ++ highComplexityText.closing.toList)))))

theorem highComplexityText_eq (name number : List Char) : highComplexityText.text name number =
    "High Cyclomatic ".toList ++ ("Complexity".toList ++ (": ".toList ++ (name ++ (" Function ".toList ++
      (quoted name ++ (" has a cyclomatic ".toList ++ complexityBehind number)))))) := by
  have hopening : highComplexityText.opening.toList =
      "High Cyclomatic ".toList ++ ("Complexity".toList ++ ": ".toList) := rfl
  have hsubject : highComplexityText.subject.toList = " Function ".toList := rfl
  have hpredicate : highComplexityText.predicate.toList =
      " has a cyclomatic ".toList ++ ("complexity".toList ++ ([' '] ++ ("of".toList ++ [' ']))) := rfl
  unfold Sentence.text Sentence.front Sentence.back complexityBehind
  rw [hopening, hsubject, hpredicate]
  simp only [List.append_assoc, List.cons_append, List.nil_append]

theorem calm_opening (rest : List Char) : complexityPattern.Calm "High Cyclomatic ".toList rest :=
  calm_of_lacks announced_complexity (by decide)

variable {name : List Char} {c : Char} (hname : Free isGlue (c :: name))

include hname

/-- A name that begins with no digit is passed over. -/
theorem calm_title (hc : Text.isDigit c = false) (rest : List Char) : complexityPattern.Calm
    ("Complexity".toList ++ (": ".toList ++ (c :: name))) (" Function ".toList ++ rest) := by
  have hfirst : complexityPattern.Calm ['C']
      ("omplexity".toList ++ (": ".toList ++ (c :: name)) ++ (" Function ".toList ++ rest)) := by
    refine .of_ways fun passed others heq hothers cursor hafter => ?_
    obtain ⟨rfl, rfl⟩ : passed = [] ∧ others = ['C'] := by
      rcases List.append_eq_singleton_iff.1 heq.symm with h | ⟨-, h⟩
      · exact h
      · exact absurd h hothers
    have hafter : cursor.after = "Complexity".toList ++ (": ".toList ++ c :: (name ++ ' ' :: 'F' ::
        ("unction ".toList ++ rest))) := by
      rw [hafter]
      simp only [List.append_assoc, List.cons_append]
      rfl
    exact ways_complexity_of_name hname (by decide) (by decide) hafter hc
  have hrest : complexityPattern.Calm ("omplexity".toList ++ (": ".toList ++ (c :: name)))
      (" Function ".toList ++ rest) := by
    rw [← List.append_assoc]
    refine .append (announced_complexity.calm_text (by decide) (.inr (by decide))) ?_
    exact calm_of_goesOn announced_complexity hname (by decide)
  exact hfirst.append hrest

/-- The digits that a name begins with are read off. -/
theorem digitsIn?_complexity_of_name (hc : Text.isDigit c = true) (number : List Char) :
    digitsIn? complexityPattern (highComplexityText.text (c :: name) number) =
      some ((c :: name).takeWhile Text.isDigit) := by
  rw [highComplexityText_eq]
  refine digitsIn?_of_head? (calm_opening _) fun cursor hplaced hfresh hafter => ?_
  exact head?_complexity_of_name hname (d := 'F') (by decide) (by decide) hafter hc hplaced hfresh

/-- Where the name begins with no digit, the complexity is read off as it is. -/
theorem digitsIn?_complexity_of_number (hc : Text.isDigit c = false) {number : List Char}
    (hne : number ≠ []) (hnumber : ∀ c ∈ number, Text.isDigit c = true) :
    digitsIn? complexityPattern (highComplexityText.text (c :: name) number) = some number := by
  obtain ⟨d, digits, rfl⟩ := List.exists_cons_of_ne_nil hne
  have hbehind : complexityPattern.Calm (quoted (c :: name) ++ " has a cyclomatic ".toList)
      (complexityBehind (d :: digits)) :=
    .append (calm_of_goesOn announced_complexity (free_quoted hname) (by decide))
      (calm_of_lacks announced_complexity (by decide))
  have hfunction : complexityPattern.Calm " Function ".toList
      ((quoted (c :: name) ++ " has a cyclomatic ".toList) ++ complexityBehind (d :: digits)) :=
    calm_of_lacks announced_complexity (by decide)
  have hfirst : complexityPattern.Calm ("Complexity".toList ++ (": ".toList ++ (c :: name)))
      (" Function ".toList ++ (quoted (c :: name) ++ " has a cyclomatic ".toList) ++
        complexityBehind (d :: digits)) := by
    rw [List.append_assoc]
    exact calm_title hname hc _
  have hcalm := (calm_opening _).append (hfirst.append (hfunction.append hbehind))
  have hhead := digitsIn?_of_head? hcalm fun cursor hplaced hfresh hafter =>
    head?_complexity_of (hnumber d List.mem_cons_self) hafter hplaced hfresh
  have htake : (d :: digits ++ ',' :: highComplexityText.closing.toList).takeWhile Text.isDigit =
      d :: digits := by
    rw [takeWhile_append_cons (by decide), List.takeWhile_eq_self_iff.2 hnumber]
  rw [highComplexityText_eq]
  simpa only [List.append_assoc] using hhead.trans (congrArg some htake)

end Complexity

/-- The digits that a name begins with are read off as a complexity, and where there are none the complexity
itself. -/
theorem digitsIn?_complexity {name number : List Char} (hname : IsName name) (hne : number ≠ [])
    (hnumber : ∀ c ∈ number, Text.isDigit c = true) :
    digitsIn? complexityPattern (highComplexityText.text name number) =
      some (if name.takeWhile Text.isDigit = [] then number else name.takeWhile Text.isDigit) := by
  obtain ⟨c, others, rfl⟩ := List.exists_cons_of_ne_nil hname.ne
  have hfree := free_of_isName hname
  cases hc : Text.isDigit c with
  | true =>
    rw [digitsIn?_complexity_of_name hfree hc, if_neg]
    rw [List.takeWhile_cons_of_pos hc]
    exact List.cons_ne_nil c _
  | false =>
    rw [digitsIn?_complexity_of_number hfree hc hne hnumber, if_pos]
    exact List.takeWhile_cons_of_neg (Bool.eq_false_iff.1 hc)

end KotlinAudit.Rule.CodeSmell
