import KotlinAudit.Proofs.Pattern.Captured
import KotlinAudit.Proofs.Rule.Header
import KotlinAudit.Proofs.Rule.Placement

/-! Names of types, functions and constants, and what becomes of them when they are changed as recommended. A
header is matched where it can be read, so a line with another name in place of the declared one declares that
name. Nothing is said about it exactly if it follows the convention, and whether a recommended name does can be
told from the old one. -/
namespace KotlinAudit.Rule.Naming

open Source (IsName nameGroup)
open Text (Free Line)
open Text.NameCase (Identifier LetterFirst Grouped)

/-! ### What follows the words in front of a name -/

section Tails

open Pattern
open Cursor (Passes)

/-- A receiver, if any, and a name up to its opening parenthesis. -/
def stemPattern : Pattern := all [Source.receiver, capture nameGroup word, blanks, only '(']

def parametersPattern : Pattern := all [only '<', many (noneOf ">"), only '>', blanks]

/-- The stretch of a name that stands behind some text. -/
def nameStretch (start : Nat) (front name : List Char) : List (Nat × Stretch) :=
  [(nameGroup, ⟨start + front.length, start + front.length + name.length⟩)]

variable {cursor next finish : Cursor} {text front name back fresh other another rest : List Char}

theorem spells_receiver_iff : Source.receiver.spells text ↔
    text = [] ∨ ∃ chars, text = chars ++ ['.'] ∧ chars ≠ [] ∧ ∀ c ∈ chars, isReceiver c = true := by
  refine spells_optional_iff.trans (or_congr_right ⟨?_, ?_⟩)
  · rintro ⟨chars, _, rfl, hchars, c, rfl, hc⟩
    obtain rfl := beq_iff_eq.1 hc
    exact ⟨chars, rfl, spells_oneOrMore_iff.1 hchars⟩
  · rintro ⟨chars, rfl, hchars⟩
    exact ⟨chars, ['.'], rfl, spells_oneOrMore_iff.2 hchars, '.', rfl, rfl⟩

theorem spells_parameters_iff : parametersPattern.spells text ↔ IsParameters text := by
  constructor
  · rintro ⟨_, _, rfl, ⟨c, rfl, hc⟩, names, _, rfl, hnames, _, gap, rfl, ⟨d, rfl, hd⟩, hgap⟩
    obtain rfl := beq_iff_eq.1 hc
    obtain rfl := beq_iff_eq.1 hd
    exact ⟨names, gap, rfl, fun hmem => absurd (spells_many_iff.1 hnames _ hmem) (by decide),
      spells_many_iff.1 hgap⟩
  · rintro ⟨names, gap, rfl, hnames, hgap⟩
    refine ⟨['<'], _, rfl, ⟨'<', rfl, rfl⟩, names, _, rfl, spells_many_iff.2 fun c hc => ?_, ['>'], gap, rfl,
      ⟨'>', rfl, rfl⟩, spells_many_iff.2 hgap⟩
    have hne : c ≠ '>' := ne_of_mem_of_not_mem hc hnames
    simpa using hne

/-- The ways through the pattern find the stem and capture its name. -/
theorem stem_of_mem_ways (hplaced : cursor.Placed) (hgroups : cursor.groups = [])
    (h : next ∈ stemPattern.ways cursor) : ∃ receiver name back, cursor.after = receiver ++ (name ++ back) ∧
      Stem receiver name back ∧ next.groups = nameStretch cursor.position receiver name := by
  obtain ⟨first, hfirst, h⟩ := List.mem_flatMap.1 h
  obtain ⟨second, hsecond, h⟩ := List.mem_flatMap.1 h
  obtain ⟨third, hthird, hnext⟩ := List.mem_flatMap.1 h
  obtain ⟨receiver, hreceiver, hpasses⟩ := exists_spelled (by decide) hfirst
  obtain ⟨middle, hmiddle, hcaptured, hcapture⟩ := exists_of_mem_ways_capture hsecond
  obtain ⟨name, hname, hword⟩ := @exists_passes word rfl _ _ hmiddle
  obtain ⟨space, hspace, hblanks⟩ := @exists_passes blanks rfl _ _ hthird
  obtain ⟨c, rest, hafter, hc, rfl⟩ := mem_ways_char.1 hnext
  obtain rfl := beq_iff_eq.1 hc
  have hsecondPasses := hcapture name hword
  have hfirstPlaced := hpasses.placed hplaced
  -- Nothing but the name is captured.
  have hgroupsFirst : first.groups = [] :=
    (groups_of_mem_ways (by decide) (by decide) hplaced hfirst).trans hgroups
  have hgroupsMiddle : middle.groups = [] :=
    (groups_of_mem_ways (by decide) (by decide) hfirstPlaced hmiddle).trans hgroupsFirst
  have hgroupsThird : third.groups = second.groups :=
    groups_of_mem_ways (by decide) (by decide) (hsecondPasses.placed hfirstPlaced) hthird
  refine ⟨receiver, name, space ++ '(' :: rest, ?_, ⟨spells_receiver_iff.1 hreceiver,
    Source.isName_of_language hname, space, rest, rfl, spells_many_iff.1 (spells_of_language rfl hspace)⟩, ?_⟩
  · rw [hpasses.after, hsecondPasses.after, hblanks.after, hafter]
  · change third.groups = _
    rw [hgroupsThird, hcaptured, hgroupsMiddle, hsecondPasses.position, hpasses.position]
    rfl

theorem ways_stem_ne_nil {receiver : List Char} (h : Stem receiver name back)
    (hafter : cursor.after = receiver ++ (name ++ back)) : stemPattern.ways cursor ≠ [] := by
  obtain ⟨space, rest, rfl, hspace⟩ := h.opens
  have hspells : stemPattern.spells (receiver ++ (name ++ (space ++ ['(']))) :=
    ⟨_, _, rfl, spells_receiver_iff.2 h.receiver, _, _, rfl, spells_oneOrMore_iff.2 ⟨h.name.ne, h.name.word⟩,
      _, _, rfl, spells_many_iff.2 hspace, '(', rfl, rfl⟩
  have hsplit : cursor.after = receiver ++ (name ++ (space ++ ['('])) ++ rest := by rw [hafter]; simp
  obtain ⟨next, hnext, -⟩ := exists_way_of_spells (by decide) hspells hsplit
  exact List.ne_nil_of_mem hnext

/-- What follows the words that introduce a declaration. -/
def Kind.tail : Kind → Pattern
  | .function => seq Source.typeParameters stemPattern
  | _ => capture nameGroup word

/-- The name of a declaration, with what stands in front of it and behind it. -/
def Kind.Tells : Kind → (front name back : List Char) → Prop
  | .function, front, name, back => Signature front name back
  | _, front, name, back => front = [] ∧ IsName name ∧ ∀ c ∈ back.head?, Text.isWord c = false

theorem ways_function_tail (cursor : Cursor) : Kind.function.tail.ways cursor =
    (parametersPattern.ways cursor).flatMap stemPattern.ways ++ stemPattern.ways cursor := by
  have hoptional : Source.typeParameters.ways cursor = parametersPattern.ways cursor ++ [cursor] :=
    ways_optional rfl cursor
  rw [Kind.tail, ways, hoptional, List.flatMap_append, List.flatMap_singleton]

theorem mem_typed_ways (hplaced : cursor.Placed) (hgroups : cursor.groups = [])
    (h : next ∈ (parametersPattern.ways cursor).flatMap stemPattern.ways) :
    ∃ parameters receiver name back, cursor.after = parameters ++ (receiver ++ (name ++ back)) ∧
      IsParameters parameters ∧ Stem receiver name back ∧
      next.groups = nameStretch cursor.position (parameters ++ receiver) name := by
  obtain ⟨middle, hmiddle, hnext⟩ := List.mem_flatMap.1 h
  obtain ⟨parameters, hparameters, hpasses⟩ := exists_spelled (by decide) hmiddle
  obtain ⟨receiver, name, back, hafter, hstem, hstretch⟩ := stem_of_mem_ways (hpasses.placed hplaced)
    ((groups_of_mem_ways (by decide) (by decide) hplaced hmiddle).trans hgroups) hnext
  refine ⟨parameters, receiver, name, back, by rw [hpasses.after, hafter], spells_parameters_iff.1 hparameters,
    hstem, ?_⟩
  rw [hstretch, hpasses.position, nameStretch, nameStretch, List.length_append, Nat.add_assoc cursor.position]

theorem typed_ways_ne_nil (h : Typed cursor.after) :
    (parametersPattern.ways cursor).flatMap stemPattern.ways ≠ [] := by
  obtain ⟨parameters, receiver, name, back, hafter, hparameters, hstem⟩ := h
  obtain ⟨middle, hmiddle, hpasses⟩ :=
    exists_way_of_spells (by decide) (spells_parameters_iff.2 hparameters) hafter
  obtain ⟨next, hnext⟩ := List.exists_mem_of_ne_nil _ (ways_stem_ne_nil hstem
    (List.append_cancel_left (hpasses.after.symm.trans hafter)))
  exact List.ne_nil_of_mem (List.mem_flatMap.2 ⟨middle, hmiddle, hnext⟩)

theorem exists_name_of_head? (hgroups : cursor.groups = [])
    (h : ((capture nameGroup word).ways cursor).head? = some finish) : ∃ name back, cursor.after = name ++ back ∧
      IsName name ∧ (∀ c ∈ back.head?, Text.isWord c = false) ∧
      finish.groups = nameStretch cursor.position [] name := by
  obtain ⟨hne, hstretch⟩ := groups_of_head? h
  rw [hgroups] at hstretch
  refine ⟨_, _, List.takeWhile_append_dropWhile.symm, ⟨hne, fun _ => List.mem_takeWhile_imp⟩, fun c hc => ?_,
    hstretch⟩
  have hhead := List.head?_dropWhile_not Text.isWord cursor.after
  rwa [show (cursor.after.dropWhile Text.isWord).head? = some c from hc] at hhead

theorem ways_name_ne_nil (h : IsName name) (hafter : cursor.after = name ++ back) :
    (capture nameGroup word).ways cursor ≠ [] := by
  obtain ⟨next, hnext, -⟩ := @exists_way (capture nameGroup word) rfl _ _ _
    (language_oneOrMore_iff.2 ⟨h.ne, h.word⟩) hafter
  exact List.ne_nil_of_mem hnext

/-- The preferred way through what follows finds the name where it is told. -/
theorem tells_of_head? {kind : Kind} (hplaced : cursor.Placed) (hgroups : cursor.groups = [])
    (h : (kind.tail.ways cursor).head? = some finish) :
    ∃ front name back, cursor.after = front ++ (name ++ back) ∧ kind.Tells front name back ∧
      finish.groups = nameStretch cursor.position front name := by
  cases kind with
  | type | constant =>
    obtain ⟨name, back, hafter, hname, hback, hstretch⟩ := exists_name_of_head? hgroups h
    exact ⟨[], name, back, hafter, ⟨rfl, hname, hback⟩, hstretch⟩
  | function =>
    rw [ways_function_tail, List.head?_append] at h
    cases htyped : ((parametersPattern.ways cursor).flatMap stemPattern.ways).head? with
    | some other =>
      rw [htyped, Option.some_or, Option.some_inj] at h
      subst h
      obtain ⟨parameters, receiver, name, back, hafter, hparameters, hstem, hstretch⟩ :=
        mem_typed_ways hplaced hgroups (List.mem_of_head? htyped)
      exact ⟨parameters ++ receiver, name, back, by rw [hafter, List.append_assoc], .typed rfl hparameters hstem,
        hstretch⟩
    | none =>
      rw [htyped, Option.none_or] at h
      obtain ⟨receiver, name, back, hafter, hstem, hstretch⟩ :=
        stem_of_mem_ways hplaced hgroups (List.mem_of_head? h)
      refine ⟨receiver, name, back, hafter, .untyped hstem fun hread => ?_, hstretch⟩
      rw [← hafter] at hread
      exact typed_ways_ne_nil hread (List.head?_eq_none_iff.1 htyped)

theorem ways_tail_ne_nil {kind : Kind} (h : kind.Tells front name back)
    (hafter : cursor.after = front ++ (name ++ back)) : kind.tail.ways cursor ≠ [] := by
  cases kind with
  | type | constant =>
    obtain ⟨rfl, hname, -⟩ := h
    exact ways_name_ne_nil hname hafter
  | function =>
    rw [ways_function_tail]
    cases h with
    | typed hfront hparameters hstem =>
      rw [hfront, List.append_assoc] at hafter
      exact List.append_ne_nil_of_left_ne_nil (typed_ways_ne_nil ⟨_, _, _, _, hafter, hparameters, hstem⟩) _
    | untyped hstem => exact List.append_ne_nil_of_right_ne_nil _ (ways_stem_ne_nil hstem hafter)

variable {kind : Kind}

theorem isBlank_of_isWord {c : Char} (h : Text.isWord c = true) : Text.isBlank c = false :=
  isBlank_of_isReceiver (isReceiver_of_isWord h)

theorem inked_of_isName (h : IsName name) (back : List Char) : Inked (name ++ back) := by
  obtain ⟨c, rest, rfl⟩ := List.exists_cons_of_ne_nil h.ne
  exact ⟨c, rest ++ back, rfl, isBlank_of_isWord (h.word c List.mem_cons_self)⟩

/-- A name ends where no character of names follows. -/
theorem takeWhile_name (h : IsName name) (hback : ∀ c ∈ back.head?, Text.isWord c = false) :
    (name ++ back).takeWhile Text.isWord = name := by
  rw [List.takeWhile_append_of_pos h.word]
  cases back with
  | nil => exact List.append_nil name
  | cons c back =>
    rw [List.takeWhile_cons_of_neg (by rw [hback c rfl]; exact Bool.false_ne_true), List.append_nil]

theorem Kind.Tells.inked (h : kind.Tells front name back) : Inked (front ++ (name ++ back)) := by
  cases kind with
  | type | constant =>
    obtain ⟨rfl, hname, -⟩ := h
    exact inked_of_isName hname back
  | function => exact Signature.inked h

theorem Kind.Tells.unique (h : kind.Tells front name back) (hother : kind.Tells other another rest)
    (heq : front ++ (name ++ back) = other ++ (another ++ rest)) :
    front = other ∧ name = another ∧ back = rest := by
  cases kind with
  | type | constant =>
    obtain ⟨rfl, hname, hback⟩ := h
    obtain ⟨rfl, hanother, hrest⟩ := hother
    have hsame : name = another := by
      rw [← takeWhile_name hname hback, ← takeWhile_name hanother hrest]
      exact congrArg (List.takeWhile Text.isWord) heq
    subst hsame
    exact ⟨rfl, rfl, List.append_cancel_left heq⟩
  | function => exact Signature.unique h hother heq

theorem Kind.Tells.rename (h : kind.Tells front name back) (hfresh : IsName fresh) :
    kind.Tells front fresh back := by
  cases kind with
  | type | constant => exact ⟨h.1, hfresh, h.2.2⟩
  | function => exact Signature.rename h hfresh

theorem Kind.Tells.isName (h : kind.Tells front name back) : IsName name := by
  cases kind with
  | type | constant => exact h.2.1
  | function =>
    cases h with
    | typed _ _ hstem => exact hstem.name
    | untyped hstem => exact hstem.name

end Tails

/-! ### Headers of declarations -/

section Headers

open Pattern

/-- The header of a declaration up to its name and, of a function, up to the opening parenthesis. -/
def Kind.header : Kind → Pattern
  | .type => typeDeclaration
  | .function => functionDeclaration
  | .constant => constDeclaration

/-- The line declares a name, which stands behind some text and in front of some other. -/
inductive Reads (kind : Kind) (line front name back : Line) : Prop
  | line {items : List (String × List Char)} {middle : Line} (line_eq : line = front ++ (name ++ back))
    (front_eq : front = spaced items ++ middle) (leads : kind.Leads items) (tells : kind.Tells middle name back) :
    Reads kind line front name back

variable {kind other : Kind} {line front name back fresh before another rest : Line} {found : Cursor}

theorem ways_header (kind : Kind) (cursor : Cursor) :
    kind.header.ways cursor = (seq kind.front kind.tail).ways cursor := by
  cases kind with
  | type =>
    change (seq (modifiers typeModifiers) (seq (texts Kind.type.keywords) (seq (oneOrMore blank)
      (capture nameGroup word)))).ways cursor = (seq (seq (modifiers typeModifiers) (seq (texts Kind.type.keywords)
      (oneOrMore blank))) (capture nameGroup word)).ways cursor
    simp only [ways_seq, List.flatMap_assoc]
  | function =>
    change (seq (modifiers functionModifiers) (seq (texts Kind.function.keywords) (seq (oneOrMore blank)
      (seq Source.typeParameters stemPattern)))).ways cursor = (seq (seq (modifiers functionModifiers)
      (seq (texts Kind.function.keywords) (oneOrMore blank))) (seq Source.typeParameters stemPattern)).ways cursor
    simp only [ways_seq, List.flatMap_assoc]
  | constant =>
    change (seq (Pattern.optional (seq (texts visibilities) (oneOrMore blank))) (seq (texts ["const"])
      (seq (oneOrMore blank) (seq (texts Kind.constant.keywords) (seq (oneOrMore blank)
      (capture nameGroup word)))))).ways cursor = (seq (seq (seq (Pattern.optional (seq (texts visibilities)
      (oneOrMore blank))) (seq (texts ["const"]) (oneOrMore blank))) (seq (texts Kind.constant.keywords)
      (oneOrMore blank))) (capture nameGroup word)).ways cursor
    simp only [ways_seq, List.flatMap_assoc]

theorem matchStart?_eq (kind : Kind) (line : Line) :
    kind.header.matchStart? line = ((seq kind.front kind.tail).ways (.start line)).head? := by
  rw [matchStart?, firstEnd_some, ways_header]

/-- A header is found where it is read, and its name is captured. -/
theorem reads_of_matchStart? (h : kind.header.matchStart? line = some found) :
    ∃ front name back, Reads kind line front name back ∧ found.groups = nameStretch 0 front name := by
  rw [matchStart?_eq] at h
  obtain ⟨middle, hmiddle, hfound⟩ := exists_of_head?_seq h
  obtain ⟨passed, hpassed, hpasses⟩ := exists_spelled kind.isForward_front hmiddle
  obtain ⟨items, rfl, hitems⟩ := spells_front_iff.1 hpassed
  have hplaced : (Cursor.start line).Placed := rfl
  have hgroups : middle.groups = [] := groups_of_mem_ways kind.isForward_front kind.isBare_front hplaced hmiddle
  obtain ⟨front, name, back, hafter, htells, hstretch⟩ := tells_of_head? (hpasses.placed hplaced) hgroups hfound
  refine ⟨spaced items ++ front, name, back, .line ?_ rfl hitems htells, ?_⟩
  · rw [List.append_assoc, ← hafter]
    exact hpasses.after
  · rw [hstretch, hpasses.position, nameStretch, nameStretch, List.length_append]
    simp only [Cursor.start, Nat.zero_add]

theorem Reads.matchesStart (h : Reads kind line front name back) : kind.header.matchesStart line = true := by
  obtain ⟨rfl, rfl, hitems, htells⟩ := h
  rw [List.append_assoc]
  obtain ⟨middle, hmiddle, hpasses⟩ := @exists_way_of_spells kind.front _ _ (.start _) kind.isFree_front
    (spells_front_iff.2 ⟨_, rfl, hitems⟩) rfl
  obtain ⟨next, hnext⟩ := List.exists_mem_of_ne_nil _
    (ways_tail_ne_nil htells (List.append_cancel_left hpasses.after).symm)
  rw [Pattern.matchesStart, matchStart?_eq, List.isSome_head?]
  exact List.ne_nil_of_mem (List.mem_flatMap.2 ⟨middle, hmiddle, hnext⟩)

/-- A line is read as a declaration in one way at most. -/
theorem Reads.unique (h : Reads kind line front name back) (hother : Reads other line before another rest) :
    kind = other ∧ front = before ∧ name = another ∧ back = rest := by
  cases h with
  | @line items middle hline hfront hitems htells =>
  cases hother with
  | @line others center hline' hbefore hothers htells' =>
  rw [hline, hfront, hbefore, List.append_assoc, List.append_assoc] at hline'
  have hsame : kind = other ∧ items = others := by
    rcases prefix_of_spaced hitems.items hothers.items htells.inked htells'.inked hline' with hbegins | hbegins
    · obtain ⟨rfl, hwords⟩ := hitems.introduces.unique hothers.introduces (hbegins.map _)
      exact ⟨rfl, hbegins.eq_of_length (by simpa using congrArg List.length hwords)⟩
    · obtain ⟨rfl, hwords⟩ := hothers.introduces.unique hitems.introduces (hbegins.map _)
      exact ⟨rfl, (hbegins.eq_of_length (by simpa using congrArg List.length hwords)).symm⟩
  obtain ⟨rfl, rfl⟩ := hsame
  obtain ⟨rfl, hname, hback⟩ := htells.unique htells' (List.append_cancel_left hline')
  exact ⟨rfl, hfront.trans hbefore.symm, hname, hback⟩

theorem Reads.isName (h : Reads kind line front name back) : IsName name := by
  cases h with
  | line _ _ _ tells => exact tells.isName

/-- Another name in its place is declared as well. -/
theorem Reads.rename (h : Reads kind line front name back) (hfresh : IsName fresh) :
    Reads kind (front ++ (fresh ++ back)) front fresh back := by
  cases h with
  | line _ hfront leads tells => exact .line rfl hfront leads (tells.rename hfresh)

/-- A line that declares something starts with a small letter. -/
theorem Reads.exists_head (h : Reads kind line front name back) :
    ∃ c rest, line = c :: rest ∧ Text.NameCase.isLower c = true := by
  cases h with
  | @line items middle hline hfront hitems _ =>
    obtain ⟨words, keyword, hwords, -, -⟩ := hitems.introduces
    have hne : items ≠ [] := by
      rintro rfl
      exact List.append_ne_nil_of_right_ne_nil words (List.cons_ne_nil keyword []) hwords.symm
    obtain ⟨⟨word, gap⟩, items, rfl⟩ := List.exists_cons_of_ne_nil hne
    obtain ⟨hword, -⟩ := hitems.items _ List.mem_cons_self
    obtain ⟨c, letters, hletters⟩ := List.exists_cons_of_ne_nil hword.ne
    have hc : Text.NameCase.isLower c = true := hword.letters c (by rw [hletters]; exact List.mem_cons_self)
    rw [hfront, spaced_cons, show word.toList = c :: letters from hletters] at hline
    exact ⟨c, _, hline, hc⟩

theorem Reads.not_isComment (h : Reads kind line front name back) : isComment line = false := by
  obtain ⟨c, rest, rfl, hc⟩ := h.exists_head
  have hsigns : ∀ sign ∈ ["//", "*", "/*"],
      ∃ d more, sign.toList = d :: more ∧ Text.NameCase.isLower d = false := by simp [Text.NameCase.isLower]
  refine List.any_eq_false.2 fun sign hsign hbegins => ?_
  obtain ⟨d, more, hsame, hd⟩ := hsigns sign hsign
  rw [hsame, List.isPrefixOf_iff_prefix, List.cons_prefix_cons] at hbegins
  rw [hbegins.1, hc] at hd
  cases hd

/-- The header is found in the line, and what it captures as the name stands between some text and some other. -/
structure Captures (kind : Kind) (line front name back : Line) : Prop where
  line_eq : line = front ++ (name ++ back)
  found : ∃ found, kind.header.matchStart? line = some found ∧
    found.groups.lookup nameGroup = some ⟨front.length, front.length + name.length⟩

theorem captures_iff : Captures kind line front name back ↔ Reads kind line front name back := by
  constructor
  · rintro ⟨hline, found, hfound, hlookup⟩
    obtain ⟨before, another, rest, hreads, hgroups⟩ := reads_of_matchStart? hfound
    have hstretch : (⟨before.length, before.length + another.length⟩ : Stretch) =
        ⟨front.length, front.length + name.length⟩ := by
      rw [hgroups, nameStretch, Nat.zero_add] at hlookup
      exact Option.some.inj hlookup
    obtain ⟨hfirst, hlast⟩ := Stretch.mk.inj hstretch
    have hbefore : line = before ++ (another ++ rest) := by
      cases hreads with
      | line line_eq => exact line_eq
    obtain ⟨rfl, hnames⟩ := List.append_inj (hbefore.symm.trans hline) hfirst
    obtain ⟨rfl, rfl⟩ := List.append_inj hnames (Nat.add_left_cancel hlast)
    exact hreads
  · intro h
    obtain ⟨found, hfound⟩ := Option.isSome_iff_exists.1 h.matchesStart
    obtain ⟨before, another, rest, hreads, hgroups⟩ := reads_of_matchStart? hfound
    obtain ⟨-, rfl, rfl, rfl⟩ := h.unique hreads
    refine ⟨?_, found, hfound, ?_⟩
    · cases h with
      | line line_eq => exact line_eq
    · rw [hgroups, nameStretch, Nat.zero_add]
      rfl

/-- What a header captures is the name that is read. -/
theorem Reads.group_eq (h : Reads kind line front name back) (hfound : kind.header.matchStart? line = some found) :
    found.group nameGroup = name := by
  obtain ⟨before, another, rest, hreads, hgroups⟩ := reads_of_matchStart? hfound
  obtain ⟨-, rfl, rfl, rfl⟩ := h.unique hreads
  have hwhole : found.whole = line := by
    rw [matchStart?, firstEnd_some] at hfound
    obtain ⟨passed, hpasses⟩ := reaches_of_mem_ways (List.mem_of_head? hfound)
    exact hpasses.whole_eq
  obtain ⟨hline, -⟩ := captures_iff.2 h
  rw [Cursor.group, Cursor.group?, hgroups, nameStretch, Nat.zero_add]
  change (found.whole.drop front.length).take (front.length + name.length - front.length) = name
  rw [hwhole, hline, List.drop_left, Nat.add_sub_cancel_left, List.take_left]

end Headers

/-! ### What is said about a name -/

section Conventions

open Text.NameCase

/-- The convention for the names of what is declared. -/
def Kind.convention : Kind → Pattern
  | type => pascal
  | function => camel
  | constant => upperSnake

/-- The name that is recommended in place of another one. -/
def Kind.fix : Kind → List Char → List Char
  | type => toPascal
  | function => toCamel
  | constant => toUpperSnake

/-- Names in place of which one is recommended that follows the convention. -/
def Kind.Fixable : Kind → List Char → Prop
  | constant => Grouped
  | _ => LetterFirst

/-- Functions may have other names if a text declares them as composable. -/
def Kind.Exempt : Kind → (text name : List Char) → Prop
  | function, text, name => (composableNamed name).occursIn text = true
  | _, _, _ => False

def Kind.title : Kind → String
  | type => "Class Name Does Not Follow PascalCase Convention"
  | function => "Function Name Does Not Follow camelCase Convention"
  | constant => "Constant Does Not Follow UPPER_SNAKE_CASE Convention"

/-- What is said about the name of a file. -/
def fileTitle : String := "File Name Does Not Follow PascalCase Convention"

theorem Kind.title_ne (kind : Kind) : kind.title ≠ fileTitle := by cases kind <;> decide

/-- What is said about a declared name. -/
def Kind.draft : Kind → (text : List Char) → (number : Nat) → (line name : Line) → Option Draft
  | type, _, number, line, name => typeName number line name
  | function, text, number, line, name => functionName text number line name
  | constant, _, number, line, name => constantName number line name

variable {kind : Kind} {text : List Char} {number : Nat} {line front name back : Line} {draft : Draft}

theorem Kind.fixable_iff (kind : Kind) (h : Identifier name) :
    kind.convention.matchesStart (kind.fix name) = true ↔ kind.Fixable name := by
  cases kind with
  | type => exact matchesStart_toPascal_iff h
  | function => exact matchesStart_toCamel_iff h
  | constant => exact matchesStart_toUpperSnake_iff h

theorem Kind.isName_fix (kind : Kind) (h : Identifier name) : IsName (kind.fix name) := by
  have hword : ∀ {name : List Char}, name ≠ [] ∧ Spelled name → IsName name :=
    fun h => ⟨h.1, fun c hc => isWord_of_spelled (h.2 c hc)⟩
  cases kind with
  | type => exact hword (spelled_toPascal h)
  | function => exact hword (spelled_toCamel h)
  | constant => exact hword (spelled_toUpperSnake h)

/-- About a line that declares a name something is said as about the name. -/
theorem lineDraft_eq (h : Reads kind line front name back) :
    lineDraft text number line = kind.draft text number line name := by
  obtain ⟨found, hfound⟩ := Option.isSome_iff_exists.1 h.matchesStart
  have hgroup := h.group_eq hfound
  have hother : ∀ other : Kind, other ≠ kind → other.header.matchStart? line = none := by
    refine fun other hne => Option.eq_none_iff_forall_ne_some.2 fun found hfound => hne ?_
    obtain ⟨_, _, _, hreads, -⟩ := reads_of_matchStart? hfound
    exact (hreads.unique h).1
  rw [lineDraft, h.not_isComment, if_neg Bool.false_ne_true]
  cases kind with
  | type =>
    rw [show typeDeclaration.matchStart? line = some found from hfound]
    exact congrArg (typeName number line) hgroup
  | function =>
    rw [show typeDeclaration.matchStart? line = none from hother .type nofun,
      show functionDeclaration.matchStart? line = some found from hfound]
    exact congrArg (functionName text number line) hgroup
  | constant =>
    rw [show typeDeclaration.matchStart? line = none from hother .type nofun,
      show functionDeclaration.matchStart? line = none from hother .function nofun,
      show constDeclaration.matchStart? line = some found from hfound]
    exact congrArg (constantName number line) hgroup

/-- What is said about a line is said about the name that it declares. -/
theorem exists_reads_of_lineDraft (h : lineDraft text number line = some draft) :
    ∃ kind front name back, Reads kind line front name back ∧ kind.draft text number line name = some draft := by
  have hfound : ∃ kind : Kind, ∃ found, kind.header.matchStart? line = some found := by
    unfold lineDraft at h
    split at h
    · cases h
    split at h
    · next found hfound => exact ⟨.type, found, hfound⟩
    split at h
    · next found hfound => exact ⟨.function, found, hfound⟩
    split at h
    · next found hfound => exact ⟨.constant, found, hfound⟩
    · cases h
  obtain ⟨kind, found, hfound⟩ := hfound
  obtain ⟨front, name, back, hreads, -⟩ := reads_of_matchStart? hfound
  exact ⟨kind, front, name, back, hreads, (lineDraft_eq hreads).symm.trans h⟩

/-- Something is said about names that do not follow the convention and are not exempt. -/
theorem Kind.isSome_draft_iff : (kind.draft text number line name).isSome = true ↔
    ¬kind.convention.matchesStart name = true ∧ ¬kind.Exempt text name := by
  cases kind with
  | type =>
    rw [draft, typeName]
    split
    · next h => simp [convention, h]
    · next h => simp [convention, h, Exempt]
  | function =>
    rw [draft, functionName]
    split
    · next h => simp [convention, h]
    split
    · next hexempt => simp [Exempt, hexempt]
    · next h hexempt => simp [convention, h, Exempt, hexempt]
  | constant =>
    rw [draft, constantName]
    split
    · next h => simp [convention, h]
    · next h => simp [convention, h, Exempt]

/-- The finding is about the name that the line with an index declares. It recommends another name, for a constant
with a fix that can be applied automatically. -/
structure Faults (kind : Kind) (index : Nat) (name : List Char) (finding : Finding) : Prop where
  line : finding.line = index + 1
  title : finding.title = kind.title
  recommendation : finding.recommendation =
    s!"Rename '{String.ofList name}' to '{String.ofList (kind.fix name)}'."
  fixable : kind = .constant → finding.autoFixable = true ∧
    finding.before = some s!"const val {String.ofList name} = ..." ∧
    finding.after = some s!"const val {String.ofList (kind.fix name)} = ..."

theorem Kind.faults_of_draft {index : Nat} (h : kind.draft text (index + 1) line name = some draft)
    (analyzer : String) (category : Category) (file : SourceFile) :
    Faults kind index name (draft.finding analyzer category file) := by
  cases kind with
  | type =>
    rw [Kind.draft, typeName] at h
    split at h
    · cases h
    · cases h
      exact ⟨rfl, rfl, rfl, nofun⟩
  | function =>
    rw [Kind.draft, functionName] at h
    split at h
    · cases h
    split at h
    · cases h
    · cases h
      exact ⟨rfl, rfl, rfl, nofun⟩
  | constant =>
    rw [Kind.draft, constantName] at h
    split at h
    · cases h
    · cases h
      exact ⟨rfl, rfl, rfl, fun _ => ⟨rfl, rfl, rfl⟩⟩

end Conventions

/-! ### Another name in the text -/

section Renaming

variable {kind : Kind} {text before name after fresh : List Char} {index : Nat} {draft : Draft} {file : SourceFile}

/-- The line with an index declares a name that stands behind some of the text and in front of the rest. -/
structure Declares (kind : Kind) (text : List Char) (index : Nat) (before name after : List Char) : Prop where
  text_eq : text = before ++ (name ++ after)
  captures : ∃ line front back, (Text.lines text)[index]? = some line ∧
    before = Text.front text index ++ (line.takeWhile Text.isBlank ++ front) ∧
    Captures kind (Text.trim line) front name back

/-- A name that a line declares stands in the text. -/
theorem exists_split {line front back : Line} (hline : (Text.lines text)[index]? = some line)
    (h : Text.trim line = front ++ (name ++ back)) : ∃ trail rest, (∀ c ∈ trail, Text.isBlank c = true) ∧
      line = line.takeWhile Text.isBlank ++ (front ++ (name ++ back) ++ trail) ∧
      text = Text.front text index ++ (line ++ rest) ∧
      text = Text.front text index ++ (line.takeWhile Text.isBlank ++ front) ++
        (name ++ (back ++ (trail ++ rest))) := by
  obtain ⟨rest, hrest⟩ := Text.front_append_isPrefix hline
  obtain ⟨trail, hblank, htrail⟩ := Text.exists_trail line
  rw [h] at htrail
  rw [List.append_assoc] at hrest
  refine ⟨trail, rest, hblank, htrail, hrest.symm, ?_⟩
  calc
    text = Text.front text index ++ (line ++ rest) := hrest.symm
    _ = Text.front text index ++ (line.takeWhile Text.isBlank ++ (front ++ (name ++ back) ++ trail) ++ rest) :=
      congrArg (fun line => Text.front text index ++ (line ++ rest)) htrail
    _ = _ := by simp only [List.append_assoc]

theorem exists_declares {line front back : Line} (hline : (Text.lines text)[index]? = some line)
    (h : Reads kind (Text.trim line) front name back) :
    ∃ before after, Declares kind text index before name after := by
  have hcaptures := captures_iff.2 h
  obtain ⟨trail, rest, -, -, -, htext⟩ := exists_split hline hcaptures.line_eq
  exact ⟨_, _, htext, line, front, back, hline, rfl, hcaptures⟩

/-- With another name in its place the line declares that name. -/
theorem Declares.rename (h : Declares kind text index before name after) (hfresh : IsName fresh) :
    ∃ line front back, (Text.lines (before ++ (fresh ++ after)))[index]? = some line ∧
      Reads kind (Text.trim line) front fresh back := by
  obtain ⟨htext, line, front, back, hline, rfl, hcaptures⟩ := h
  obtain ⟨trail, rest, hblank, hsplit, hrest, hsame⟩ := exists_split hline hcaptures.line_eq
  obtain rfl := List.append_cancel_left (List.append_cancel_left (htext.symm.trans hsame))
  have hreads := (captures_iff.1 hcaptures).rename hfresh
  have hword : ∀ c ∈ fresh, Text.isBlank c = false := fun c hc => isBlank_of_isWord (hfresh.word c hc)
  have hne : fresh ++ back ≠ [] := List.append_ne_nil_of_left_ne_nil hfresh.ne back
  -- The line ends with the old text behind the name or, if there is none, with the name.
  have hlast : ∀ c ∈ (front ++ (fresh ++ back)).getLast?, Text.isBlank c = false := by
    intro c hc
    rw [List.getLast?_append_of_ne_nil front hne] at hc
    by_cases hback : back = []
    · rw [hback, List.append_nil] at hc
      exact hword c (List.mem_of_getLast? hc)
    · rw [List.getLast?_append_of_ne_nil fresh hback] at hc
      refine Text.getLast?_trim line c ?_
      rwa [hcaptures.line_eq, List.getLast?_append_of_ne_nil front (List.append_ne_nil_of_right_ne_nil name hback),
        List.getLast?_append_of_ne_nil name hback]
  have hhead : ∀ c ∈ (front ++ (fresh ++ back)).head?, Text.isBlank c = false := by
    obtain ⟨d, more, heq, hd⟩ := hreads.exists_head
    rw [heq]
    rintro c hc
    obtain rfl := Option.some.inj hc
    exact isBlank_of_isLower hd
  have hbroken : Text.Unbroken (line.takeWhile Text.isBlank ++ (front ++ (fresh ++ back) ++ trail)) := by
    have hfresh : Text.Unbroken fresh := fun c hc => Bool.eq_false_iff.2 fun hbreak => by
      have hblank := Text.isBlank_of_isLineBreak hbreak
      rw [hword c hc] at hblank
      cases hblank
    have hkept := Text.unbroken_of_mem_lines (List.mem_of_getElem? hline)
    rw [hsplit] at hkept
    simp only [Text.Unbroken, Free, List.forall_mem_append] at hkept hfresh ⊢
    exact ⟨hkept.1, ⟨hkept.2.1.1, hfresh, hkept.2.1.2.2⟩, hkept.2.2⟩
  refine ⟨line.takeWhile Text.isBlank ++ (front ++ (fresh ++ back) ++ trail), front, back, ?_, ?_⟩
  · have hplace := Text.getElem?_lines_replaced hline hrest hbroken (by simp [hfresh.ne])
    simpa only [List.append_assoc] using hplace
  · rw [Text.trim_append (fun c => List.mem_takeWhile_imp) hblank (List.append_ne_nil_of_right_ne_nil front hne)
      hhead hlast]
    exact hreads

/-- Everything that is said is about the name of the file or about a line. -/
theorem mem_rules_iff : draft ∈ rules file text ↔ fileName file = some draft ∨ ∃ index line,
    (Text.lines text)[index]? = some line ∧ lineDraft text (index + 1) (Text.trim line) = some draft := by
  rw [rules, List.mem_append, Option.mem_toList, List.mem_filterMap]
  refine or_congr_right ⟨?_, ?_⟩
  · rintro ⟨⟨line, index⟩, hline, hdraft⟩
    exact ⟨index, line, List.mem_zipIdx_iff_getElem?.1 hline, hdraft⟩
  · rintro ⟨index, line, hline, hdraft⟩
    exact ⟨(line, index), List.mem_zipIdx_iff_getElem?.2 hline, hdraft⟩

/-- Something is said about the name that the line with an index declares. -/
def Said (findings : List Finding) (index : Nat) : Prop :=
  ∃ kind : Kind, ∃ finding : Finding, finding ∈ findings ∧ finding.line = index + 1 ∧ finding.title = kind.title

theorem title_of_fileName (h : fileName file = some draft) : draft.title = fileTitle := by
  unfold fileName at h
  split at h
  · cases h
  split at h
  · cases h
  · cases h
    rfl

section Reported

variable {line front back : Line}

/-- What is said about the name of a line is drafted for the line. -/
theorem exists_draft_of_said (hline : (Text.lines text)[index]? = some line)
    (h : Said ((rules file text).map (·.finding "naming" .naming file)) index) :
    ∃ draft, lineDraft text (index + 1) (Text.trim line) = some draft := by
  obtain ⟨kind, finding, hfinding, hnumber, htitle⟩ := h
  obtain ⟨draft, hdraft, rfl⟩ := List.mem_map.1 hfinding
  rcases mem_rules_iff.1 hdraft with hdraft | ⟨place, same, hsame, hdraft⟩
  · exact absurd (htitle.symm.trans (title_of_fileName hdraft)) kind.title_ne
  · obtain ⟨other, _, _, _, -, hname⟩ := exists_reads_of_lineDraft hdraft
    have hplace := (other.faults_of_draft hname "naming" .naming file).line
    obtain rfl : place = index := by omega
    obtain rfl := Option.some.inj (hline.symm.trans hsame)
    exact ⟨draft, hdraft⟩

theorem exists_faults_of_draft (hline : (Text.lines text)[index]? = some line)
    (h : Reads kind (Text.trim line) front name back)
    (hdraft : lineDraft text (index + 1) (Text.trim line) = some draft) :
    ∃ finding ∈ (rules file text).map (·.finding "naming" .naming file), Faults kind index name finding :=
  ⟨_, List.mem_map_of_mem (mem_rules_iff.2 (.inr ⟨index, line, hline, hdraft⟩)),
    kind.faults_of_draft ((lineDraft_eq h).symm.trans hdraft) "naming" .naming file⟩

theorem exists_draft_iff (h : Reads kind line front name back) (number : Nat) :
    (∃ draft, lineDraft text number line = some draft) ↔
      ¬kind.convention.matchesStart name = true ∧ ¬kind.Exempt text name := by
  rw [← Option.isSome_iff_exists, lineDraft_eq h, Kind.isSome_draft_iff]

/-- Of what is said about a text, something is about the name that a line declares exactly if it does not follow
the convention and is not exempt. -/
theorem said_iff (hline : (Text.lines text)[index]? = some line)
    (h : Reads kind (Text.trim line) front name back) :
    Said ((rules file text).map (·.finding "naming" .naming file)) index ↔
      ¬kind.convention.matchesStart name = true ∧ ¬kind.Exempt text name := by
  rw [← exists_draft_iff h (index + 1)]
  constructor
  · exact exists_draft_of_said hline
  · rintro ⟨draft, hdraft⟩
    obtain ⟨finding, hfinding, hfaults⟩ := exists_faults_of_draft hline h hdraft
    exact ⟨kind, finding, hfinding, hfaults.line, hfaults.title⟩

/-- The finding about a name that a line declares recommends another one. -/
theorem exists_faults_iff (hline : (Text.lines text)[index]? = some line)
    (h : Reads kind (Text.trim line) front name back) :
    (∃ finding ∈ (rules file text).map (·.finding "naming" .naming file), Faults kind index name finding) ↔
      ¬kind.convention.matchesStart name = true ∧ ¬kind.Exempt text name := by
  constructor
  · rintro ⟨finding, hfinding, hfaults⟩
    exact (said_iff hline h).1 ⟨kind, finding, hfinding, hfaults.line, hfaults.title⟩
  · intro hfails
    obtain ⟨draft, hdraft⟩ := (exists_draft_iff h (index + 1)).2 hfails
    exact exists_faults_of_draft hline h hdraft

end Reported

/-- Whatever is said about names besides that of the file is about a name that a line declares. About a declared
name something is said exactly if it does not follow the convention and is not exempt. If the name is an identifier,
whether the recommended one follows the convention can be told from it; and with the recommended name in its place
something is said again exactly if that does not follow the convention and is not exempt. -/
theorem said_again_iff (isFile : FileTest) (file : SourceFile) (text : List Char) : ∃ findings,
    analyzer.analyze isFile file text = .ok findings ∧
    (∀ finding ∈ findings, finding.title = fileTitle ∨ ∃ kind index before name after,
      Declares kind text index before name after ∧ Faults kind index name finding) ∧
    ∀ kind index before name after, Declares kind text index before name after →
      ((∃ finding ∈ findings, Faults kind index name finding) ↔
        ¬kind.convention.matchesStart name = true ∧ ¬kind.Exempt text name) ∧
      (Identifier name → (kind.convention.matchesStart (kind.fix name) = true ↔ kind.Fixable name) ∧
        ∃ again, analyzer.analyze isFile file (before ++ (kind.fix name ++ after)) = .ok again ∧
          (Said again index ↔
            ¬kind.Fixable name ∧ ¬kind.Exempt (before ++ (kind.fix name ++ after)) (kind.fix name))) := by
  refine ⟨_, rfl, fun finding hfinding => ?_, fun kind index before name after h => ⟨?_, fun hname => ?_⟩⟩
  · obtain ⟨draft, hdraft, rfl⟩ := List.mem_map.1 hfinding
    rcases mem_rules_iff.1 hdraft with hdraft | ⟨index, line, hline, hdraft⟩
    · exact .inl (title_of_fileName hdraft)
    · obtain ⟨kind, front, name, back, hreads, hname⟩ := exists_reads_of_lineDraft hdraft
      obtain ⟨before, after, hdeclares⟩ := exists_declares hline hreads
      exact .inr ⟨kind, index, before, name, after, hdeclares, kind.faults_of_draft hname _ _ file⟩
  · obtain ⟨-, line, front, back, hline, -, hcaptures⟩ := h
    exact exists_faults_iff hline (captures_iff.1 hcaptures)
  · obtain ⟨line, front, back, hline, hreads⟩ := h.rename (kind.isName_fix hname)
    refine ⟨kind.fixable_iff hname, _, rfl, ?_⟩
    rw [← kind.fixable_iff hname]
    exact said_iff hline hreads

/-- An underscore in front stays where it is, so the constant is to be given the name that it has. -/
example : (rules ⟨⟨1, ["Limits.kt"]⟩, "Limits.kt", 26, 0, none⟩ "const val _MAX_COUNT = 10\n".toList).map
    (·.recommendation) = ["Rename '_MAX_COUNT' to '_MAX_COUNT'."] := by decide +kernel

end Renaming

end KotlinAudit.Rule.Naming
