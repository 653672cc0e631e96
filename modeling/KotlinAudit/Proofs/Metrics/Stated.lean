import KotlinAudit.Proofs.Metrics.Measurable
import KotlinAudit.Proofs.Pattern.Announced

/-! Lengths and complexities that are stated in texts. A count is announced by the number itself, with the word
for lines behind it; a complexity is announced by that word. What is found is the whole number that is
announced first. -/
namespace KotlinAudit

open Pattern
open Cursor (Passes)
open Text (Free)

/-- The digits that a match has captured. -/
def Cursor.number? (cursor : Cursor) : Option (List Char) := (cursor.group? 1).or (cursor.group? 2)

namespace Pattern

/-- What is taken off a text ends at a character that is not taken. -/
theorem takeWhile_append_cons {takes : Char → Bool} {text rest : List Char} {c : Char}
    (h : takes c = false) : (text ++ c :: rest).takeWhile takes = text.takeWhile takes := by
  induction text with
  | nil => rw [List.nil_append, List.takeWhile_cons_of_neg (Bool.eq_false_iff.1 h), List.takeWhile_nil]
  | cons d text ih => rw [List.cons_append, List.takeWhile_cons, List.takeWhile_cons, ih]

section Letters

/-- The letters of the words that announce numbers. -/
def signLetters : List Char := "complexitylengthlinesof".toList.eraseDups

theorem isGlue_of_sameLetter {c d : Char} (hc : c ∈ signLetters) (h : sameLetter c d = true) :
    isGlue d = false := by
  have hall : Free (fun c => glueChars.any (sameLetter c)) signLetters := by decide +kernel
  refine isGlue_of_free (fun d hd => ?_) h
  exact Bool.eq_false_iff.2 (List.any_eq_false.1 (hall c hc) d hd)

variable {expected text : List Char}

theorem plain_textAnyCase (expected : List Char) :
    (all (expected.map fun c => char (sameLetter c))).isPlain = true ∧
      (all (expected.map fun c => char (sameLetter c))).isForward = true := by
  induction expected with
  | nil => exact ⟨rfl, rfl⟩
  | cons c rest ih =>
    cases rest with
    | nil => exact ⟨rfl, rfl⟩
    | cons d rest => exact ih

theorem free_of_textAnyCase (hletters : expected ⊆ signLetters)
    (h : (all (expected.map fun c => char (sameLetter c))).language text) : Free isGlue text := by
  rw [language_textAnyCase] at h
  induction h with
  | nil => exact .nil
  | cons hsame _ ih =>
    rw [List.cons_subset] at hletters
    exact .cons (isGlue_of_sameLetter hletters.1 hsame) (ih hletters.2)

theorem begins_textAnyCase {c : Char} {starts : Char → Bool} (hc : c ∈ signLetters)
    (hstarts : ∀ d, sameLetter c d = true → starts d = true) :
    (all ((c :: expected).map fun c => char (sameLetter c))).Begins starts := by
  intro text htext
  obtain ⟨d, rest, hd, -, rfl⟩ := List.forall₂_cons_left_iff.1 (language_textAnyCase.1 htext)
  exact ⟨d, rest, rfl, hstarts d hd, isGlue_of_sameLetter hc hd⟩

theorem not_groupLanguage_textAnyCase (expected : List Char) (group : Nat) (text : List Char) :
    ¬(all (expected.map fun c => char (sameLetter c))).groupLanguage group text := by
  induction expected with
  | nil => exact id
  | cons c rest ih =>
    cases rest with
    | nil => exact id
    | cons d rest => exact fun h => h.elim id ih

end Letters

/-! ### The patterns for stated numbers -/

def number (group : Nat) : Pattern := capture group (oneOrMore digit)

/-- A count of lines. -/
def lineCount : Pattern := seq (number 1) (seq (oneOrMore (char Text.isBlank)) (textAnyCase "lines"))

/-- What a word announces. -/
def stated (word : String) (glues : Char → Bool) (body : Pattern) : Pattern :=
  seq (textAnyCase word) (seq (oneOrMore (char glues)) body)

def ofNumber : Pattern := stated "of" Text.isBlank (number 1)

theorem lengthPattern_eq : lengthPattern = either lineCount (stated "length" isGlue (number 2)) := rfl

theorem complexityPattern_eq : complexityPattern =
    either (stated "complexity" isGlue ofNumber) (stated "complexity" isGlue (number 2)) := rfl

theorem isGlue_of_isBlank (c : Char) (h : Text.isBlank c = true) : isGlue c = true := by
  rw [isGlue, h, Bool.or_true]

theorem free_of_number {group : Nat} {text : List Char} (h : (number group).language text) :
    Free isGlue text :=
  fun c hc => isGlue_of_isDigit ((language_oneOrMore_iff.1 h).2 c hc)

theorem language_digit {group : Nat} {c : Char} (hc : Text.isDigit c = true) :
    (number group).language [c] :=
  language_oneOrMore_iff.2 ⟨List.cons_ne_nil c [], List.forall_mem_singleton.2 hc⟩

section Stated

variable {word : String} {glues starts : Char → Bool} {body : Pattern}

theorem language_stated {first between announced : List Char}
    (hfirst : List.Forall₂ (fun c d => sameLetter c d = true) word.toList first) (hne : between ≠ [])
    (hbetween : between.all glues = true) (hannounced : body.language announced) :
    (stated word glues body).language (first ++ (between ++ announced)) :=
  ⟨first, _, rfl, language_textAnyCase.2 hfirst, between, announced, rfl,
    language_oneOrMore_iff.2 ⟨hne, List.all_eq_true.1 hbetween⟩, hannounced⟩

/-- A word of the letters of signs announces, behind glue, what begins with a character of a kind. -/
structure States (word : String) (glues : Char → Bool) (body : Pattern) (starts : Char → Bool) : Prop where
  letters : word.toList ⊆ signLetters
  glue : ∀ c, glues c = true → isGlue c = true
  plain : body.isPlain = true
  begins : body.Begins starts

namespace States

variable (h : States word glues body starts)

include h

theorem announced : (stated word glues body).Announced (textAnyCase word) starts :=
  .of_parts (plain_textAnyCase _).1 h.plain (fun _ => free_of_textAnyCase h.letters) h.glue h.begins

/-- Behind a word and its glue comes what comes behind the first word and the glue there. -/
theorem exists_of_head? {cursor finish : Cursor} {first between rest : List Char} {c : Char}
    (hfirst : Free isGlue first) (hbetween : Glue between) (hc : isGlue c = false)
    (hafter : cursor.after = first ++ (between ++ c :: rest))
    (hfinish : ((stated word glues body).ways cursor).head? = some finish) :
    ∃ next : Cursor, next.after = c :: rest ∧ (body.ways next).head? = some finish ∧
      (cursor.Placed → next.groups = cursor.groups ∧ next.Placed) := by
  obtain ⟨middle, hmiddle, hfinish⟩ := exists_of_head?_seq hfinish
  obtain ⟨next, hnext, hfinish⟩ := exists_of_head?_seq hfinish
  obtain ⟨passed, hpassed, hpasses⟩ := exists_passes (plain_textAnyCase _).1 hmiddle
  obtain ⟨glue, hleast, -, hglue, hpasses', hgroups⟩ := passes_of_mem_ways_repeated hnext
  obtain ⟨announced, hannounced, hannounces⟩ := exists_passes h.plain (List.mem_of_head? hfinish)
  obtain ⟨d, more, rfl, -, hd⟩ := h.begins announced hannounced
  have hsplit : first ++ (between ++ c :: rest) = passed ++ (glue ++ d :: (more ++ finish.after)) := by
    rw [← hafter, hpasses.after, hpasses'.after, hannounces.after]
    rfl
  have hglue' : Glue glue := ⟨List.ne_nil_of_length_pos hleast, fun e he => h.glue e (hglue e he)⟩
  obtain ⟨-, -, rfl, rfl⟩ :=
    hbetween.split_unique hglue' hfirst (free_of_textAnyCase h.letters hpassed) hc hd hsplit
  refine ⟨next, hannounces.after, hfinish, fun hplaced =>
    ⟨?_, hpasses'.placed (hpasses.placed hplaced)⟩⟩
  rw [hgroups]
  exact (reads_of_mem_ways (plain_textAnyCase _).2 hmiddle).groups_eq hplaced
    (not_groupLanguage_textAnyCase _)

end States

end Stated

theorem states_of : States "of" Text.isBlank (number 1) Text.isDigit :=
  ⟨by decide, isGlue_of_isBlank, rfl, begins_digits 1⟩

theorem states_length : States "length" isGlue (number 2) Text.isDigit :=
  ⟨by decide, fun _ => id, rfl, begins_digits 2⟩

theorem states_complexity : States "complexity" isGlue (number 2) Text.isDigit :=
  ⟨by decide, fun _ => id, rfl, begins_digits 2⟩

/-- What is said of a complexity begins with the preposition. -/
theorem begins_ofNumber : ofNumber.Begins (sameLetter 'o') := by
  rintro text ⟨front, rest, rfl, hfront, -⟩
  obtain ⟨c, others, rfl, hc⟩ := @begins_textAnyCase "f".toList 'o' _ (by decide) (fun _ => id) front hfront
  exact ⟨c, others ++ rest, rfl, hc⟩

theorem states_complexityOf : States "complexity" isGlue ofNumber (sameLetter 'o') :=
  ⟨by decide, fun _ => id, rfl, begins_ofNumber⟩

/-! ### What announces a length or a complexity -/

def lengthSign : Pattern := either (number 1) (textAnyCase "length")

def startsLength (c : Char) : Bool := sameLetter 'l' c || Text.isDigit c

def complexitySign : Pattern := textAnyCase "complexity"

def startsComplexity (c : Char) : Bool := sameLetter 'o' c || Text.isDigit c

theorem announced_lineCount : lineCount.Announced (number 1) (sameLetter 'l') :=
  .of_parts rfl rfl (fun _ => free_of_number) isGlue_of_isBlank
    (@begins_textAnyCase "ines".toList 'l' _ (by decide) fun _ => id)

theorem announced_length : lengthPattern.Announced lengthSign startsLength :=
  announced_lineCount.either states_length.announced rfl fun _ => id

theorem announced_complexity : complexityPattern.Announced complexitySign startsComplexity :=
  states_complexityOf.announced.either states_complexity.announced rfl fun _ h => h.elim id id

/-! ### Captured numbers -/

section Found

variable {cursor finish : Cursor} {digits rest : List Char} (hplaced : cursor.Placed)
  (hfresh : cursor.groups = [])

include hplaced hfresh

/-- A count is captured as a whole. -/
theorem number?_of_lineCount (hdigits : Free isGlue digits) (hafter : cursor.after = digits ++ ' ' :: rest)
    (hfinish : finish ∈ lineCount.ways cursor) : finish.number? = some digits := by
  obtain ⟨first, hfirst, hfinish⟩ := List.mem_flatMap.1 hfinish
  obtain ⟨middle, hmiddle, hgroups, hcapture⟩ := exists_of_mem_ways_capture hfirst
  obtain ⟨passed, -, -, hall, hpasses, hkept⟩ := passes_of_mem_ways_repeated hmiddle
  obtain ⟨next, hnext, hfinish⟩ := List.mem_flatMap.1 hfinish
  obtain ⟨glue, hleast, -, hglue, hpasses', hkept'⟩ := passes_of_mem_ways_repeated hnext
  obtain ⟨word, -, hword⟩ := exists_passes (plain_textAnyCase _).1 hfinish
  have hpasses := hcapture passed hpasses
  obtain ⟨b, glue, rfl⟩ := List.exists_cons_of_length_pos hleast
  have hsplit : digits ++ ' ' :: rest = passed ++ b :: (glue ++ next.after) := by
    rw [← hafter, hpasses.after, hpasses'.after]
    rfl
  obtain ⟨rfl, -⟩ := hdigits.append_cons_inj (fun c hc => isGlue_of_isDigit (hall c hc)) (by decide)
    (isGlue_of_isBlank b (hglue b List.mem_cons_self)) hsplit
  have hgroups' : finish.groups = [(1, ⟨cursor.position, first.position⟩)] := by
    rw [(reads_of_mem_ways (plain_textAnyCase _).2 hfinish).groups_eq
      (hpasses'.placed (hpasses.placed hplaced)) (not_groupLanguage_textAnyCase _), hkept', hgroups,
      hkept, hfresh]
  have htext := hpasses.textOf_eq (hpasses'.trans hword) hplaced
  rw [Cursor.number?, Cursor.group?, hgroups']
  exact congrArg some htext

/-- Digits are captured up to the first character that is no digit. -/
theorem number?_of_number {group : Nat} (hgroup : group = 1 ∨ group = 2)
    (hfinish : ((number group).ways cursor).head? = some finish) :
    finish.number? = some (cursor.after.takeWhile Text.isDigit) := by
  obtain ⟨stretch, hgroups, htext, -⟩ := captured_of_head? hplaced hfinish
  rw [Cursor.number?, Cursor.group?, Cursor.group?, hgroups, hfresh, ← htext]
  rcases hgroup with rfl | rfl
  · rfl
  · rfl

end Found

/-! ### What is found -/

theorem digitsIn?_of_calm {pattern sign : Pattern} {starts : Char → Bool}
    (h : pattern.Announced sign starts) {text : List Char} (hcalm : pattern.Calm text []) :
    digitsIn? pattern text = none := by
  rw [digitsIn?, search?_of_calm h hcalm]
  rfl

/-- What is announced first is found. -/
theorem digitsIn?_of_head? {pattern : Pattern} {front rest digits : List Char}
    (hcalm : pattern.Calm front rest)
    (hhead : ∀ cursor : Cursor, cursor.Placed → cursor.groups = [] → cursor.after = rest →
      ∃ finish, (pattern.ways cursor).head? = some finish ∧ finish.number? = some digits) :
    digitsIn? pattern (front ++ rest) = some digits := by
  have hforward : (Cursor.start (front ++ rest)).Passes front ((Cursor.start (front ++ rest)).forward front) :=
    .forward rfl
  obtain ⟨finish, hfinish, hnumber⟩ := hhead _ (hforward.placed rfl) rfl (Cursor.after_forward rfl)
  rw [digitsIn?, search?_of_way hcalm hfinish]
  change some (finish.number?.getD []) = some digits
  rw [hnumber, Option.getD_some]

theorem digitsIn?_lineCount {front digits rest : List Char} (hne : digits ≠ [])
    (hdigits : ∀ c ∈ digits, Text.isDigit c = true)
    (hcalm : lengthPattern.Calm front (digits ++ ' ' :: ("lines".toList ++ rest))) :
    digitsIn? lengthPattern (front ++ (digits ++ ' ' :: ("lines".toList ++ rest))) = some digits := by
  refine digitsIn?_of_head? hcalm fun cursor hplaced hfresh hafter => ?_
  have hlanguage : lineCount.language (digits ++ ([' '] ++ "lines".toList)) :=
    ⟨digits, _, rfl, language_oneOrMore_iff.2 ⟨hne, hdigits⟩, [' '], _, rfl,
      language_oneOrMore_iff.2 ⟨by decide, List.forall_mem_singleton.2 (by decide)⟩,
      language_textAnyCase.2 (by decide)⟩
  obtain ⟨finish, hfinish⟩ := exists_head?_of_language rfl hlanguage
    (show cursor.after = digits ++ ([' '] ++ "lines".toList) ++ rest by simp [hafter])
  refine ⟨finish, ?_, number?_of_lineCount hplaced hfresh
    (fun c hc => isGlue_of_isDigit (hdigits c hc)) hafter (List.mem_of_head? hfinish)⟩
  rw [lengthPattern_eq, ways, List.head?_append, hfinish]
  rfl

/-! ### Complexities -/

section Complexity

variable {cursor : Cursor} {name rest : List Char} {c d : Char} (hname : Free isGlue (c :: name))
  (hd : isGlue d = false) (hdigit : Text.isDigit d = false)
  (hafter : cursor.after = "Complexity".toList ++ (": ".toList ++ c :: (name ++ ' ' :: d :: rest)))

include hname hd hdigit hafter

/-- A name is no preposition that a number follows. -/
theorem ways_ofNumber_of_name : (stated "complexity" isGlue ofNumber).ways cursor = [] := by
  by_contra hways
  obtain ⟨finish, hfinish⟩ := Option.isSome_iff_exists.1 (List.isSome_head?.2 hways)
  obtain ⟨next, hnext, hof, -⟩ := states_complexityOf.exists_of_head? (by decide) (by decide)
    (hname c List.mem_cons_self) hafter hfinish
  rw [ofNumber, states_of.announced.ways_of_word hname (.one (by decide)) hd hnext hdigit] at hof
  cases hof

theorem ways_complexity_eq :
    complexityPattern.ways cursor = (stated "complexity" isGlue (number 2)).ways cursor := by
  rw [complexityPattern_eq, ways, ways_ofNumber_of_name hname hd hdigit hafter, List.nil_append]

/-- A name that begins with no digit states no complexity. -/
theorem ways_complexity_of_name (hc : Text.isDigit c = false) : complexityPattern.ways cursor = [] := by
  rw [ways_complexity_eq hname hd hdigit hafter]
  exact states_complexity.announced.ways_of_word (by decide) (by decide)
    (hname c List.mem_cons_self) hafter hc

/-- The digits that a name begins with are taken for a complexity. -/
theorem head?_complexity_of_name (hc : Text.isDigit c = true) (hplaced : cursor.Placed)
    (hfresh : cursor.groups = []) : ∃ finish, (complexityPattern.ways cursor).head? = some finish ∧
      finish.number? = some ((c :: name).takeWhile Text.isDigit) := by
  have hlanguage : (stated "complexity" isGlue (number 2)).language
      ("Complexity".toList ++ (": ".toList ++ [c])) :=
    language_stated (by decide) (by decide) (by decide) (language_digit hc)
  obtain ⟨finish, hfinish⟩ := exists_head?_of_language rfl hlanguage (show cursor.after =
    "Complexity".toList ++ (": ".toList ++ [c]) ++ (name ++ ' ' :: d :: rest) by simp [hafter])
  refine ⟨finish, ways_complexity_eq hname hd hdigit hafter ▸ hfinish, ?_⟩
  obtain ⟨next, hnext, hnumber, hplace⟩ := states_complexity.exists_of_head? (by decide)
    (by decide) (hname c List.mem_cons_self) hafter hfinish
  obtain ⟨hgroups, hplaced⟩ := hplace hplaced
  rw [number?_of_number hplaced (hgroups.trans hfresh) (.inr rfl) hnumber, hnext, ← List.cons_append,
    takeWhile_append_cons (by decide)]

end Complexity

/-- The number that is said to be a complexity is found. -/
theorem head?_complexity_of {cursor : Cursor} {rest : List Char} {c : Char} (hc : Text.isDigit c = true)
    (hafter : cursor.after = "complexity".toList ++ ([' '] ++ ("of".toList ++ ([' '] ++ c :: rest))))
    (hplaced : cursor.Placed) (hfresh : cursor.groups = []) :
    ∃ finish, (complexityPattern.ways cursor).head? = some finish ∧
      finish.number? = some ((c :: rest).takeWhile Text.isDigit) := by
  have hof : ofNumber.language ("of".toList ++ ([' '] ++ [c])) :=
    language_stated (by decide) (by decide) (by decide) (language_digit hc)
  have hlanguage : (stated "complexity" isGlue ofNumber).language
      ("complexity".toList ++ ([' '] ++ ("of".toList ++ ([' '] ++ [c])))) :=
    language_stated (by decide) (by decide) (by decide) hof
  obtain ⟨finish, hfinish⟩ := exists_head?_of_language rfl hlanguage (show cursor.after =
    "complexity".toList ++ ([' '] ++ ("of".toList ++ ([' '] ++ [c]))) ++ rest by simp [hafter])
  refine ⟨finish, ?_, ?_⟩
  · rw [complexityPattern_eq, ways, List.head?_append, hfinish]
    rfl
  -- Behind the word stands the preposition, and behind that the number.
  · have hword : cursor.after =
        "complexity".toList ++ ([' '] ++ 'o' :: ("f".toList ++ ([' '] ++ c :: rest))) := hafter
    obtain ⟨next, hnext, hof, hplace⟩ := states_complexityOf.exists_of_head? (by decide)
      (.one (by decide)) (by decide) hword hfinish
    have hnext : next.after = "of".toList ++ ([' '] ++ c :: rest) := hnext
    obtain ⟨hgroups, hplaced⟩ := hplace hplaced
    obtain ⟨last, hlast, hnumber, hplace⟩ := states_of.exists_of_head? (by decide) (.one (by decide))
      (isGlue_of_isDigit hc) hnext hof
    obtain ⟨hgroups', hplaced⟩ := hplace hplaced
    rw [number?_of_number hplaced (hgroups'.trans (hgroups.trans hfresh)) (.inl rfl) hnumber, hlast]

end Pattern

end KotlinAudit
