import KotlinAudit.Proofs.Pattern.Announced
import KotlinAudit.Proofs.Source.Declaration
import KotlinAudit.Proofs.Text.NameCase

/-! What stands in front of the name of a declaration: words with blanks behind them, the last of which tells what
is declared, and in front of the name of a function type parameters and the type of a receiver. It can be read in
one way only, and in the same way with any name behind it. -/
namespace KotlinAudit.Rule.Naming

open Source (IsName)
open Text (Free)

/-! ### Words with blanks behind them -/

section Spaced

/-- Blanks that part two words. -/
structure IsGap (gap : List Char) : Prop where
  ne : gap ≠ []
  blank : ∀ c ∈ gap, Text.isBlank c = true

/-- A word in small letters. -/
structure IsWord (word : String) : Prop where
  ne : word.toList ≠ []
  letters : ∀ c ∈ word.toList, Text.NameCase.isLower c = true

instance (word : String) : Decidable (IsWord word) :=
  letI : Decidable (∀ c ∈ word.toList, Text.NameCase.isLower c = true) := List.decidableBAll _ word.toList
  decidable_of_iff (word.toList ≠ [] ∧ ∀ c ∈ word.toList, Text.NameCase.isLower c = true)
    ⟨fun h => ⟨h.1, h.2⟩, fun h => ⟨h.ne, h.letters⟩⟩

theorem isBlank_of_isLower {c : Char} (h : Text.NameCase.isLower c = true) : Text.isBlank c = false :=
  (Bool.or_eq_false_iff.1 (isGlue_of_free (by decide +kernel) h)).2

theorem IsWord.inked {word : String} (h : IsWord word) : Free Text.isBlank word.toList :=
  fun c hc => isBlank_of_isLower (h.letters c hc)

/-- Words, each with the blanks behind it. -/
def spaced (items : List (String × List Char)) : List Char := items.flatMap fun item => item.1.toList ++ item.2

/-- A text that does not start with a blank and is not empty. -/
def Inked (text : List Char) : Prop := ∃ c rest, text = c :: rest ∧ Text.isBlank c = false

variable {items others : List (String × List Char)} {item other : String × List Char} {rest more : List Char}

@[simp] theorem spaced_nil : spaced [] = [] := rfl

@[simp] theorem spaced_cons (item : String × List Char) (items : List (String × List Char)) :
    spaced (item :: items) = item.1.toList ++ (item.2 ++ spaced items) := by
  rw [spaced, List.flatMap_cons, List.append_assoc]
  rfl

theorem inked_append {word : String} (h : IsWord word) (rest : List Char) : Inked (word.toList ++ rest) := by
  obtain ⟨c, more, hword⟩ := List.exists_cons_of_ne_nil h.ne
  rw [hword]
  exact ⟨c, more ++ rest, rfl, h.inked c (hword ▸ List.mem_cons_self)⟩

theorem inked_spaced (h : ∀ item ∈ items, IsWord item.1 ∧ IsGap item.2) (hrest : Inked rest) :
    Inked (spaced items ++ rest) := by
  cases items with
  | nil => exact hrest
  | cons item items =>
    rw [spaced_cons, List.append_assoc]
    exact inked_append (h item List.mem_cons_self).1 _

/-- Blanks and what follows them can be told apart. -/
theorem gap_inj {gap another : List Char} (hgap : ∀ c ∈ gap, Text.isBlank c = true)
    (hanother : ∀ c ∈ another, Text.isBlank c = true) (hrest : Inked rest) (hmore : Inked more)
    (heq : gap ++ rest = another ++ more) : gap = another ∧ rest = more := by
  obtain ⟨c, rest, rfl, hc⟩ := hrest
  obtain ⟨d, more, rfl, hd⟩ := hmore
  have hfree : ∀ {gap : List Char}, (∀ c ∈ gap, Text.isBlank c = true) → Free (!Text.isBlank ·) gap :=
    fun hgap c hc => congrArg (!·) (hgap c hc)
  obtain ⟨hsame, rfl, hrest⟩ := (hfree hgap).append_cons_inj (hfree hanother) (congrArg (!·) hc)
    (congrArg (!·) hd) heq
  exact ⟨hsame, congrArg (c :: ·) hrest⟩

theorem item_inj (h : IsWord item.1 ∧ IsGap item.2) (hother : IsWord other.1 ∧ IsGap other.2) (hrest : Inked rest)
    (hmore : Inked more) (heq : item.1.toList ++ (item.2 ++ rest) = other.1.toList ++ (other.2 ++ more)) :
    item = other ∧ rest = more := by
  obtain ⟨word, gap⟩ := item
  obtain ⟨another, space⟩ := other
  obtain ⟨hword, hgap⟩ := h
  obtain ⟨hanother, hspace⟩ := hother
  obtain ⟨c, gap, rfl⟩ := List.exists_cons_of_ne_nil hgap.ne
  obtain ⟨d, space, rfl⟩ := List.exists_cons_of_ne_nil hspace.ne
  obtain ⟨hsame, rfl, htail⟩ := hword.inked.append_cons_inj hanother.inked (hgap.blank c List.mem_cons_self)
    (hspace.blank d List.mem_cons_self) heq
  obtain ⟨rfl, rfl⟩ := gap_inj (fun e he => hgap.blank e (List.mem_cons_of_mem c he))
    (fun e he => hspace.blank e (List.mem_cons_of_mem c he)) hrest hmore htail
  obtain rfl := String.toList_inj.1 hsame
  exact ⟨rfl, rfl⟩

/-- Of two ways to read words at the front of a text one reads the words of the other and more, or fewer. -/
theorem prefix_of_spaced (h : ∀ item ∈ items, IsWord item.1 ∧ IsGap item.2)
    (hothers : ∀ item ∈ others, IsWord item.1 ∧ IsGap item.2) (hrest : Inked rest) (hmore : Inked more)
    (heq : spaced items ++ rest = spaced others ++ more) : items <+: others ∨ others <+: items := by
  induction items generalizing others with
  | nil => exact .inl List.nil_prefix
  | cons item items ih =>
    cases others with
    | nil => exact .inr List.nil_prefix
    | cons other others =>
      obtain ⟨hitem, hitems⟩ := List.forall_mem_cons.1 h
      obtain ⟨hother, hlater⟩ := List.forall_mem_cons.1 hothers
      rw [spaced_cons, spaced_cons, List.append_assoc, List.append_assoc, List.append_assoc,
        List.append_assoc] at heq
      obtain ⟨rfl, htail⟩ := item_inj hitem hother (inked_spaced hitems hrest) (inked_spaced hlater hmore) heq
      exact (ih hitems hlater htail).imp (List.cons_prefix_cons.2 ⟨rfl, ·⟩) (List.cons_prefix_cons.2 ⟨rfl, ·⟩)

end Spaced

/-! ### The words in front of a name -/

/-- What is declared. -/
inductive Kind
  | type | function | constant
deriving DecidableEq

def visibilities : List String := ["public", "private", "internal", "protected"]

def typeModifiers : List String :=
  visibilities ++ ["data", "sealed", "enum", "abstract", "open", "inner", "value", "annotation"]

def functionModifiers : List String :=
  visibilities ++ ["suspend", "inline", "override", "operator", "open", "abstract"]

namespace Kind

/-- The words that tell what is declared. -/
def keywords : Kind → List String
  | type => ["class", "interface", "object"]
  | function => ["fun"]
  | constant => ["val"]

/-- The words that may stand in front of those. -/
def Modified : Kind → List String → Prop
  | type, words => ∀ word ∈ words, word ∈ typeModifiers
  | function, words => ∀ word ∈ words, word ∈ functionModifiers
  | constant, words => words = ["const"] ∨ ∃ visibility ∈ visibilities, words = [visibility, "const"]

/-- All words in front of the name of a declaration. -/
def Introduces (kind : Kind) (words : List String) : Prop :=
  ∃ front keyword, words = front ++ [keyword] ∧ kind.Modified front ∧ keyword ∈ kind.keywords

/-- The words that tell what is declared, of whatever kind. -/
def allKeywords : List String := ["class", "interface", "object", "fun", "val"]

variable {kind other : Kind} {words more : List String} {word : String}

theorem mem_allKeywords (h : word ∈ kind.keywords) : word ∈ allKeywords := by
  cases kind with
  | type => exact List.mem_append_left ["fun", "val"] h
  | function =>
    rw [List.mem_singleton.1 h]
    decide
  | constant =>
    rw [List.mem_singleton.1 h]
    decide

theorem unique_of_mem_keywords (h : word ∈ kind.keywords) (hother : word ∈ other.keywords) : kind = other := by
  have hall : ∀ kind ∈ [type, function, constant], ∀ other ∈ [type, function, constant], ∀ word ∈ kind.keywords,
      word ∈ other.keywords → kind = other := by decide +kernel
  exact hall kind (by cases kind <;> decide) other (by cases other <;> decide) word h hother

/-- Modifiers are words that do not tell what is declared. -/
theorem Modified.isWord (h : kind.Modified words) : ∀ word ∈ words, IsWord word ∧ word ∉ allKeywords := by
  have hall : ∀ word ∈ typeModifiers ++ functionModifiers ++ ["const"], IsWord word ∧ word ∉ allKeywords := by
    decide +kernel
  obtain ⟨hmodifiers, hconst⟩ := List.forall_mem_append.1 hall
  obtain ⟨htype, hfunction⟩ := List.forall_mem_append.1 hmodifiers
  cases kind with
  | type => exact fun word hword => htype word (h word hword)
  | function => exact fun word hword => hfunction word (h word hword)
  | constant =>
    rcases h with rfl | ⟨visibility, hvisibility, rfl⟩
    · exact hconst
    · exact List.forall_mem_cons.2 ⟨htype visibility (List.mem_append_left _ hvisibility), hconst⟩

theorem Introduces.isWord (h : kind.Introduces words) : ∀ word ∈ words, IsWord word := by
  obtain ⟨front, keyword, rfl, hfront, hkeyword⟩ := h
  refine List.forall_mem_append.2 ⟨fun word hword => (hfront.isWord word hword).1, List.forall_mem_singleton.2 ?_⟩
  exact (by decide +kernel : ∀ word ∈ allKeywords, IsWord word) keyword (mem_allKeywords hkeyword)

/-- What introduces a declaration is not the beginning of anything else that does. -/
theorem Introduces.unique (h : kind.Introduces words) (hmore : other.Introduces more) (hbegins : words <+: more) :
    kind = other ∧ words = more := by
  obtain ⟨front, keyword, rfl, hfront, hkeyword⟩ := h
  obtain ⟨front', keyword', rfl, hfront', hkeyword'⟩ := hmore
  rcases List.prefix_concat_iff.1 hbegins with heq | hbegins
  · obtain ⟨hsame, heq⟩ := List.append_inj' heq rfl
    obtain ⟨rfl, -⟩ := List.cons.inj heq
    exact ⟨unique_of_mem_keywords hkeyword hkeyword', by rw [hsame]⟩
  · have hmem : keyword ∈ front' := hbegins.subset (List.mem_append_right front List.mem_cons_self)
    exact absurd (mem_allKeywords hkeyword) (hfront'.isWord keyword hmem).2

end Kind

section Fronts

open Pattern

variable {kind : Kind} {text : List Char} {words : List String}

/-- A word of a list with blanks behind it. -/
theorem spells_item_iff (hwords : words ≠ []) : (all [texts words, oneOrMore blank]).spells text ↔
    ∃ item : String × List Char, text = item.1.toList ++ item.2 ∧ item.1 ∈ words ∧ IsGap item.2 := by
  constructor
  · rintro ⟨_, gap, rfl, hword, hgap⟩
    obtain ⟨word, hmem, rfl⟩ := (spells_texts_iff hwords).1 hword
    obtain ⟨hne, hblank⟩ := spells_oneOrMore_iff.1 hgap
    exact ⟨(word, gap), rfl, hmem, hne, hblank⟩
  · rintro ⟨⟨word, gap⟩, rfl, hmem, hgap⟩
    exact ⟨word.toList, gap, rfl, (spells_texts_iff hwords).2 ⟨word, hmem, rfl⟩,
      spells_oneOrMore_iff.2 ⟨hgap.ne, hgap.blank⟩⟩

/-- Words of a list with blanks behind each. -/
theorem spells_modifiers_iff (hwords : words ≠ []) : (modifiers words).spells text ↔
    ∃ items, text = spaced items ∧ ∀ item ∈ items, item.1 ∈ words ∧ IsGap item.2 := by
  constructor
  · rintro ⟨pieces, rfl, -, -, hpieces⟩
    induction pieces with
    | nil => exact ⟨[], rfl, List.forall_mem_nil _⟩
    | cons piece pieces ih =>
      obtain ⟨hpiece, hothers⟩ := List.forall_mem_cons.1 hpieces
      obtain ⟨item, rfl, hitem⟩ := (spells_item_iff hwords).1 hpiece
      obtain ⟨items, hitems, hall⟩ := ih hothers
      refine ⟨item :: items, ?_, List.forall_mem_cons.2 ⟨hitem, hall⟩⟩
      rw [List.flatten_cons, hitems, spaced_cons, List.append_assoc]
  · rintro ⟨items, rfl, hitems⟩
    refine ⟨items.map fun item => item.1.toList ++ item.2, by rw [spaced, List.flatMap_def], Nat.zero_le _, nofun,
      ?_⟩
    intro piece hpiece
    obtain ⟨item, hitem, rfl⟩ := List.mem_map.1 hpiece
    exact (spells_item_iff hwords).2 ⟨item, rfl, hitems item hitem⟩

/-- The modifiers of a declaration. -/
def Kind.modifier : Kind → Pattern
  | .type => modifiers typeModifiers
  | .function => modifiers functionModifiers
  | .constant =>
    seq (Pattern.optional (all [texts visibilities, oneOrMore blank])) (all [texts ["const"], oneOrMore blank])

/-- All that stands in front of the name and what may belong to it. -/
def Kind.front (kind : Kind) : Pattern := seq kind.modifier (all [texts kind.keywords, oneOrMore blank])

theorem spells_modifier_iff : kind.modifier.spells text ↔ ∃ items, text = spaced items ∧
    (∀ item ∈ items, IsGap item.2) ∧ kind.Modified (items.map (·.1)) := by
  cases kind with
  | type =>
    refine (spells_modifiers_iff (by decide)).trans (exists_congr fun items => and_congr_right fun _ => ?_)
    simp only [Kind.Modified, List.forall_mem_map, forall_and, and_comm]
  | function =>
    refine (spells_modifiers_iff (by decide)).trans (exists_congr fun items => and_congr_right fun _ => ?_)
    simp only [Kind.Modified, List.forall_mem_map, forall_and, and_comm]
  | constant =>
    constructor
    · rintro ⟨_, _, rfl, hfirst, hsecond⟩
      obtain ⟨⟨const, gap⟩, rfl, hconst, hgap⟩ := (spells_item_iff (List.cons_ne_nil _ _)).1 hsecond
      obtain rfl := List.mem_singleton.1 hconst
      rcases spells_optional_iff.1 hfirst with rfl | hfirst
      · refine ⟨[("const", gap)], ?_, List.forall_mem_singleton.2 hgap, .inl rfl⟩
        simp
      · obtain ⟨⟨visibility, space⟩, rfl, hvisibility, hspace⟩ := (spells_item_iff (by decide)).1 hfirst
        refine ⟨[(visibility, space), ("const", gap)], ?_,
          List.forall_mem_cons.2 ⟨hspace, List.forall_mem_singleton.2 hgap⟩, .inr ⟨visibility, hvisibility, rfl⟩⟩
        simp
    · rintro ⟨items, rfl, hgaps, hwords | ⟨visibility, hvisibility, hwords⟩⟩
      · obtain ⟨⟨const, gap⟩, rfl, rfl⟩ := List.map_eq_singleton_iff.1 hwords
        refine ⟨[], _, rfl, spells_optional_iff.2 (.inl rfl), (spells_item_iff (List.cons_ne_nil _ _)).2
          ⟨("const", gap), ?_, List.mem_singleton_self _, hgaps _ List.mem_cons_self⟩⟩
        simp
      · obtain ⟨⟨visibility, space⟩, items, rfl, rfl, hlast⟩ := List.map_eq_cons_iff.1 hwords
        obtain ⟨⟨_, gap⟩, rfl, rfl⟩ := List.map_eq_singleton_iff.1 hlast
        obtain ⟨hspace, hgap⟩ := List.forall_mem_cons.1 hgaps
        refine ⟨_, _, ?_, spells_optional_iff.2 (.inr ((spells_item_iff (by decide)).2
          ⟨(visibility, space), rfl, hvisibility, hspace⟩)), (spells_item_iff (List.cons_ne_nil _ _)).2
          ⟨("const", gap), rfl, List.mem_singleton_self _, hgap _ List.mem_cons_self⟩⟩
        simp

theorem Kind.isForward_front (kind : Kind) : kind.front.isForward = true := by cases kind <;> decide

theorem Kind.isFree_front (kind : Kind) : kind.front.isFree = true := by cases kind <;> decide

theorem Kind.isBare_front (kind : Kind) : kind.front.isBare = true := by cases kind <;> decide

/-- Words in front of a name that introduce a declaration, with the blanks behind them. -/
structure Kind.Leads (kind : Kind) (items : List (String × List Char)) : Prop where
  gaps : ∀ item ∈ items, IsGap item.2
  introduces : kind.Introduces (items.map (·.1))

theorem Kind.Leads.items {items : List (String × List Char)} (h : kind.Leads items) :
    ∀ item ∈ items, IsWord item.1 ∧ IsGap item.2 :=
  fun item hitem => ⟨h.introduces.isWord _ (List.mem_map_of_mem hitem), h.gaps item hitem⟩

theorem spells_front_iff : kind.front.spells text ↔ ∃ items, text = spaced items ∧ kind.Leads items := by
  have hkeywords : kind.keywords ≠ [] := by cases kind <;> exact List.cons_ne_nil _ _
  constructor
  · rintro ⟨_, _, rfl, hmodifier, hkeyword⟩
    obtain ⟨items, rfl, hgaps, hmodified⟩ := spells_modifier_iff.1 hmodifier
    obtain ⟨item, rfl, hitem, hgap⟩ := (spells_item_iff hkeywords).1 hkeyword
    refine ⟨items ++ [item], by simp [spaced], List.forall_mem_append.2 ⟨hgaps, List.forall_mem_singleton.2 hgap⟩,
      items.map (·.1), item.1, List.map_append, hmodified, hitem⟩
  · rintro ⟨items, rfl, hgaps, front, keyword, hwords, hmodified, hkeyword⟩
    obtain ⟨items, last, rfl, rfl, hlast⟩ := List.map_eq_append_iff.1 hwords
    obtain ⟨item, rfl, rfl⟩ := List.map_eq_singleton_iff.1 hlast
    obtain ⟨hgaps, hgap⟩ := List.forall_mem_append.1 hgaps
    exact ⟨spaced items, item.1.toList ++ item.2, by simp [spaced],
      spells_modifier_iff.2 ⟨items, rfl, hgaps, hmodified⟩,
      (spells_item_iff hkeywords).2 ⟨item, rfl, hkeyword, hgap _ List.mem_cons_self⟩⟩

end Fronts

/-! ### The name of a function -/

section Signatures

/-- The characters of a receiver type. -/
def isReceiver (c : Char) : Bool := Text.isWord c || ".<>?".toList.contains c

/-- A text that starts with an opening parenthesis behind blanks. -/
def Opens (text : List Char) : Prop := ∃ space rest, text = space ++ '(' :: rest ∧ ∀ c ∈ space, Text.isBlank c = true

/-- A receiver, if any, with a point behind it, a name, and an opening parenthesis behind blanks. -/
structure Stem (receiver name back : List Char) : Prop where
  receiver : receiver = [] ∨ ∃ chars, receiver = chars ++ ['.'] ∧ chars ≠ [] ∧ ∀ c ∈ chars, isReceiver c = true
  name : IsName name
  opens : Opens back

/-- Type parameters with the blanks behind them. -/
def IsParameters (text : List Char) : Prop :=
  ∃ names gap, text = '<' :: (names ++ '>' :: gap) ∧ '>' ∉ names ∧ ∀ c ∈ gap, Text.isBlank c = true

/-- A text that can be read with type parameters in front. -/
def Typed (text : List Char) : Prop := ∃ parameters receiver name back,
  text = parameters ++ (receiver ++ (name ++ back)) ∧ IsParameters parameters ∧ Stem receiver name back

/-- What stands in front of the name of a function, behind the word for it: type parameters and a receiver. The
reading with type parameters is preferred. -/
inductive Signature (front name back : List Char) : Prop
  | typed {parameters receiver : List Char} (front_eq : front = parameters ++ receiver)
    (isParameters : IsParameters parameters) (stem : Stem receiver name back) : Signature front name back
  | untyped (stem : Stem front name back) (never : ¬Typed (front ++ (name ++ back))) : Signature front name back

variable {receiver name back other another rest front fresh : List Char} {c : Char}

theorem isReceiver_of_isWord (h : Text.isWord c = true) : isReceiver c = true := Bool.or_eq_true_iff.2 (.inl h)

theorem isBlank_of_isReceiver (h : isReceiver c = true) : Text.isBlank c = false := by
  have hglue := @isGlue_of_free isReceiver (by decide +kernel) c h
  rw [isGlue, Bool.or_eq_false_iff] at hglue
  exact hglue.2

theorem isReceiver_of_isBlank (h : Text.isBlank c = true) : isReceiver c = false := by
  rw [← Bool.not_eq_true]
  intro hreceiver
  rw [isBlank_of_isReceiver hreceiver] at h
  cases h

theorem Stem.receives (h : Stem receiver name back) : ∀ c ∈ receiver ++ name, isReceiver c = true := by
  refine List.forall_mem_append.2 ⟨?_, fun c hc => isReceiver_of_isWord (h.name.word c hc)⟩
  rcases h.receiver with rfl | ⟨chars, rfl, -, hchars⟩
  · exact List.forall_mem_nil _
  · exact List.forall_mem_append.2 ⟨hchars, List.forall_mem_singleton.2 (by decide)⟩

theorem Stem.inked (h : Stem receiver name back) : Inked (receiver ++ (name ++ back)) := by
  obtain ⟨c, rest, hstem⟩ := List.exists_cons_of_ne_nil (List.append_ne_nil_of_right_ne_nil receiver h.name.ne)
  refine ⟨c, rest ++ back, by rw [← List.append_assoc, hstem]; rfl, isBlank_of_isReceiver ?_⟩
  exact h.receives c (hstem ▸ List.mem_cons_self)

theorem point_notMem (h : IsName name) : '.' ∉ name := fun hmem => absurd (h.word _ hmem) (by decide)

/-- The last point of a text is determined. -/
theorem point_inj {first second : List Char} (hfirst : '.' ∉ first) (hsecond : '.' ∉ second)
    (heq : front ++ '.' :: first = back ++ '.' :: second) : front = back ∧ first = second := by
  have hreverse := congrArg List.reverse heq
  simp only [List.reverse_append, List.reverse_cons, List.append_assoc, List.singleton_append] at hreverse
  obtain ⟨hsame, hrest⟩ :=
    Text.append_cons_inj (mt List.mem_reverse.1 hfirst) (mt List.mem_reverse.1 hsecond) hreverse
  exact ⟨List.reverse_injective hrest, List.reverse_injective hsame⟩

/-- Behind the last point there is the name. -/
theorem stem_inj (h : Stem receiver name back) (hother : Stem other another rest)
    (heq : receiver ++ name = other ++ another) : receiver = other ∧ name = another := by
  rcases h.receiver with rfl | ⟨chars, rfl, -, -⟩ <;> rcases hother.receiver with rfl | ⟨more, rfl, -, -⟩
  · exact ⟨rfl, heq⟩
  · exact absurd (by rw [show name = _ from heq]; simp) (point_notMem h.name)
  · exact absurd (by rw [show another = _ from heq.symm]; simp) (point_notMem hother.name)
  · rw [List.append_assoc, List.append_assoc] at heq
    obtain ⟨rfl, hname⟩ := point_inj (point_notMem h.name) (point_notMem hother.name) heq
    exact ⟨rfl, hname⟩

/-- The characters of a receiver and a name end where blanks and a parenthesis follow. -/
theorem run_inj {run others : List Char} (hrun : ∀ c ∈ run, isReceiver c = true)
    (hothers : ∀ c ∈ others, isReceiver c = true) (hback : Opens back) (hrest : Opens rest)
    (heq : run ++ back = others ++ rest) : run = others ∧ back = rest := by
  have hmark : ∀ {back : List Char}, Opens back → ∃ c more, back = c :: more ∧ (!isReceiver c) = true := by
    rintro _ ⟨space, rest, rfl, hspace⟩
    cases space with
    | nil => exact ⟨'(', rest, rfl, by decide⟩
    | cons c space => exact ⟨c, _, rfl, congrArg (!·) (isReceiver_of_isBlank (hspace c List.mem_cons_self))⟩
  have hfree : ∀ {run : List Char}, (∀ c ∈ run, isReceiver c = true) → Free (!isReceiver ·) run :=
    fun hrun c hc => congrArg (!·) (hrun c hc)
  obtain ⟨c, more, rfl, hc⟩ := hmark hback
  obtain ⟨d, others, rfl, hd⟩ := hmark hrest
  obtain ⟨hsame, rfl, htail⟩ := (hfree hrun).append_cons_inj (hfree hothers) hc hd heq
  exact ⟨hsame, congrArg (c :: ·) htail⟩

theorem Stem.unique (h : Stem receiver name back) (hother : Stem other another rest)
    (heq : receiver ++ (name ++ back) = other ++ (another ++ rest)) :
    receiver = other ∧ name = another ∧ back = rest := by
  rw [← List.append_assoc, ← List.append_assoc] at heq
  obtain ⟨hstem, hback⟩ := run_inj h.receives hother.receives h.opens hother.opens heq
  obtain ⟨hreceiver, hname⟩ := stem_inj h hother hstem
  exact ⟨hreceiver, hname, hback⟩

theorem Stem.rename (h : Stem receiver name back) (hfresh : IsName fresh) : Stem receiver fresh back :=
  ⟨h.receiver, hfresh, h.opens⟩

theorem parameters_inj {parameters others : List Char} (h : IsParameters parameters) (hothers : IsParameters others)
    (hrest : Inked rest) (hback : Inked back) (heq : parameters ++ rest = others ++ back) :
    parameters = others ∧ rest = back := by
  obtain ⟨names, gap, rfl, hnames, hgap⟩ := h
  obtain ⟨names', gap', rfl, hnames', hgap'⟩ := hothers
  simp only [List.cons_append, List.append_assoc, List.cons.injEq, true_and] at heq
  obtain ⟨rfl, htail⟩ := Text.append_cons_inj hnames hnames' heq
  obtain ⟨rfl, hsame⟩ := gap_inj hgap hgap' hrest hback htail
  exact ⟨rfl, hsame⟩

theorem Signature.inked (h : Signature front name back) : Inked (front ++ (name ++ back)) := by
  cases h with
  | typed hfront hparameters hstem =>
    obtain ⟨names, gap, rfl, -, -⟩ := hparameters
    rw [hfront]
    exact ⟨'<', _, rfl, by decide⟩
  | untyped hstem => exact hstem.inked

/-- There is one reading of what stands behind the word for a function. -/
theorem Signature.unique (h : Signature front name back) (hother : Signature other another rest)
    (heq : front ++ (name ++ back) = other ++ (another ++ rest)) :
    front = other ∧ name = another ∧ back = rest := by
  cases h with
  | @typed parameters receiver hfront hparameters hstem =>
    rw [hfront, List.append_assoc] at heq
    cases hother with
    | @typed others receiver' hfront' hothers hstem' =>
      rw [hfront', List.append_assoc] at heq
      obtain ⟨rfl, htail⟩ := parameters_inj hparameters hothers hstem.inked hstem'.inked heq
      obtain ⟨rfl, hname, hback⟩ := hstem.unique hstem' htail
      exact ⟨by rw [hfront, hfront'], hname, hback⟩
    | untyped _ hnever => exact absurd ⟨_, _, _, _, heq.symm, hparameters, hstem⟩ hnever
  | untyped hstem hnever =>
    cases hother with
    | @typed others receiver' hfront' hothers hstem' =>
      rw [hfront', List.append_assoc] at heq
      exact absurd ⟨_, _, _, _, heq, hothers, hstem'⟩ hnever
    | untyped hstem' _ => exact hstem.unique hstem' heq

theorem notMem_of_isName (h : IsName name) (hc : Text.isWord c = false) : c ∉ name := fun hmem => by
  rw [h.word c hmem] at hc
  cases hc

/-- Behind type parameters a receiver does not start with a point. -/
theorem not_stem_of_point {run : List Char} (hrun : '.' ∉ run) (hall : ∀ c ∈ run, isReceiver c = true)
    (hback : Opens back) (hstem : Stem receiver name rest) : '.' :: (run ++ back) ≠ receiver ++ (name ++ rest) := by
  intro heq
  rw [← List.append_assoc, ← List.cons_append] at heq
  have hpoint : ∀ c ∈ '.' :: run, isReceiver c = true := List.forall_mem_cons.2 ⟨by decide, hall⟩
  obtain ⟨hsame, -⟩ := run_inj hpoint hstem.receives hback hstem.opens heq
  rcases hstem.receiver with rfl | ⟨chars, rfl, hne, -⟩
  · exact notMem_of_isName hstem.name (by decide) (hsame ▸ List.mem_cons_self)
  · obtain ⟨c, chars, rfl⟩ := List.exists_cons_of_ne_nil hne
    obtain ⟨-, hrest⟩ := List.cons.inj hsame
    exact hrun (by rw [hrest]; simp)

/-- Type parameters that are closed in front of a name are the same in front of another one. -/
theorem typed_of_closed {pre post : List Char} (hpre : '>' ∉ pre) (hpost : ∀ c ∈ post, isReceiver c = true)
    (hname : IsName name) (hfresh : IsName fresh) (hback : Opens back)
    (h : Typed ('<' :: (pre ++ '>' :: (post ++ '.' :: (fresh ++ back))))) :
    Typed ('<' :: (pre ++ '>' :: (post ++ '.' :: (name ++ back)))) := by
  obtain ⟨_, receiver, another, rest, heq, ⟨names, gap, rfl, hnames, hgap⟩, hstem⟩ := h
  simp only [List.cons_append, List.append_assoc, List.cons.injEq, true_and] at heq
  obtain ⟨rfl, hbehind⟩ := Text.append_cons_inj hpre hnames heq
  have hinked : Inked (post ++ '.' :: (fresh ++ back)) := by
    cases post with
    | nil => exact ⟨'.', _, rfl, by decide⟩
    | cons c post => exact ⟨c, _, rfl, isBlank_of_isReceiver (hpost c List.mem_cons_self)⟩
  obtain ⟨-, hsame⟩ := gap_inj (List.forall_mem_nil _) hgap hinked hstem.inked hbehind
  have hne : post ≠ [] := by
    rintro rfl
    exact not_stem_of_point (point_notMem hfresh) (fun c hc => isReceiver_of_isWord (hfresh.word c hc)) hback hstem
      hsame
  exact ⟨'<' :: (pre ++ ['>']), post ++ ['.'], name, back, by simp, ⟨pre, [], rfl, hpre, List.forall_mem_nil _⟩,
    .inr ⟨post, rfl, hne, hpost⟩, hname, hback⟩

/-- Type parameters that are closed behind a name go on behind another one as well. -/
theorem typed_of_open {chars : List Char} (hopen : '>' ∉ chars) (hname : IsName name) (hfresh : IsName fresh)
    (h : Typed ('<' :: (chars ++ '.' :: (fresh ++ back)))) : Typed ('<' :: (chars ++ '.' :: (name ++ back))) := by
  obtain ⟨_, receiver, another, rest, heq, ⟨names, gap, rfl, hnames, hgap⟩, hstem⟩ := h
  simp only [List.cons_append, List.append_assoc, List.cons.injEq, true_and] at heq
  have hfree : ∀ {name : List Char}, IsName name → '>' ∉ chars ++ '.' :: name := by
    intro name hname
    rw [List.mem_append, List.mem_cons, not_or, not_or]
    exact ⟨hopen, by decide, notMem_of_isName hname (by decide)⟩
  have hback : '>' ∈ back := by
    have hmem : '>' ∈ chars ++ '.' :: (fresh ++ back) := by
      rw [heq]
      exact List.mem_append_right _ List.mem_cons_self
    rw [← List.cons_append, ← List.append_assoc] at hmem
    exact (List.mem_append.1 hmem).resolve_left (hfree hfresh)
  obtain ⟨pre, post, rfl, hpre⟩ := List.eq_append_cons_of_mem hback
  have hread : '>' ∉ (chars ++ '.' :: fresh) ++ pre :=
    fun hmem => (List.mem_append.1 hmem).elim (hfree hfresh) hpre
  have hsplit : (chars ++ '.' :: fresh) ++ pre ++ '>' :: post =
      names ++ '>' :: (gap ++ (receiver ++ (another ++ rest))) := by
    rw [← heq]
    simp
  obtain ⟨-, rfl⟩ := Text.append_cons_inj hread hnames hsplit
  exact ⟨'<' :: ((chars ++ '.' :: name) ++ pre ++ '>' :: gap), receiver, another, rest, by simp,
    ⟨_, gap, rfl, fun hmem => (List.mem_append.1 hmem).elim (hfree hname) hpre, hgap⟩, hstem⟩

/-- Whether type parameters can be read does not depend on the name. -/
theorem typed_of_typed (hstem : Stem front name back) (hfresh : IsName fresh)
    (h : Typed (front ++ (fresh ++ back))) : Typed (front ++ (name ++ back)) := by
  have hopens : ∃ more, front ++ (fresh ++ back) = '<' :: more := by
    obtain ⟨_, receiver, another, rest, heq, ⟨names, gap, rfl, -, -⟩, -⟩ := h
    exact ⟨_, heq⟩
  obtain ⟨more, hmore⟩ := hopens
  rcases hstem.receiver with rfl | ⟨chars, rfl, hne, hchars⟩
  · obtain ⟨c, fresh, rfl⟩ := List.exists_cons_of_ne_nil hfresh.ne
    obtain ⟨rfl, -⟩ := List.cons.inj hmore
    exact absurd List.mem_cons_self (notMem_of_isName hfresh (by decide))
  · obtain ⟨first, chars, rfl⟩ := List.exists_cons_of_ne_nil hne
    obtain ⟨rfl, -⟩ := List.cons.inj hmore
    obtain ⟨-, hletters⟩ := List.forall_mem_cons.1 hchars
    have hpoint : ∀ name : List Char,
        '<' :: chars ++ ['.'] ++ (name ++ back) = '<' :: (chars ++ '.' :: (name ++ back)) := fun name => by simp
    rw [hpoint] at h ⊢
    by_cases hclosed : '>' ∈ chars
    · obtain ⟨pre, post, rfl, hpre⟩ := List.eq_append_cons_of_mem hclosed
      obtain ⟨-, hpost⟩ := List.forall_mem_append.1 hletters
      rw [List.append_assoc, List.cons_append] at h ⊢
      exact typed_of_closed hpre (List.forall_mem_cons.1 hpost).2 hstem.name hfresh hstem.opens h
    · exact typed_of_open hclosed hstem.name hfresh h

/-- Another name is read in the same place. -/
theorem Signature.rename (h : Signature front name back) (hfresh : IsName fresh) : Signature front fresh back := by
  cases h with
  | typed hfront hparameters hstem => exact .typed hfront hparameters (hstem.rename hfresh)
  | untyped hstem hnever =>
    exact .untyped (hstem.rename hfresh) fun h => hnever (typed_of_typed hstem hfresh h)

end Signatures

end KotlinAudit.Rule.Naming
