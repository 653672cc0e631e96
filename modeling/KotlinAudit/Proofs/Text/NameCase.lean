import KotlinAudit.Proofs.Pattern.Occurrence
import KotlinAudit.Proofs.Text.Lines
import KotlinAudit.Rule.Naming

/-! Names that are rewritten to follow a convention. In Pascal and camel case the underscores go, and what follows
them is put in upper case; so the new name follows the convention exactly if a letter comes first once the
underscores at the front are gone. In upper snake case underscores stay where they are and others come in between,
so the new name follows the convention exactly if the underscores are neither at an end of the name nor next to each
other. -/
namespace KotlinAudit.Text.NameCase

open Pattern

/-- Letters, digits and underscores, with a letter among them and no digit in front. -/
structure Identifier (name : List Char) : Prop where
  spelled : ∀ c ∈ name, isAsciiLetter c = true ∨ isAsciiDigit c = true ∨ c = '_'
  lead : ∀ c ∈ name.head?, isAsciiDigit c = false
  letter : ∃ c ∈ name, isAsciiLetter c = true

/-- The first character of a name that is no underscore is a letter. -/
def LetterFirst (name : List Char) : Prop :=
  ∃ front c rest, name = front ++ c :: rest ∧ (∀ d ∈ front, d = '_') ∧ isAsciiLetter c = true

/-- The underscores of a name stand one by one between other characters. -/
structure Grouped (name : List Char) : Prop where
  head : ¬['_'] <+: name
  last : ¬['_'] <:+ name
  single : ¬['_', '_'] <:+: name

variable {name text rest : List Char} {c d : Char}

/-! ### Single characters -/

section Ascii

theorem toNat_lt_of_spelled (h : isAsciiLetter c = true ∨ isAsciiDigit c = true ∨ c = '_') : c.toNat < 128 := by
  have hle : ∀ last : Char, last.toNat < 128 → decide (c ≤ last) = true → c.toNat < 128 :=
    fun last hlast h => Nat.lt_of_le_of_lt (show c.toNat ≤ last.toNat from of_decide_eq_true h) hlast
  rcases h with h | h | rfl
  · rcases Bool.or_eq_true_iff.1 h with h | h
    · exact hle 'z' (by decide) (Bool.and_eq_true_iff.1 h).2
    · exact hle 'Z' (by decide) (Bool.and_eq_true_iff.1 h).2
  · exact hle '9' (by decide) (Bool.and_eq_true_iff.1 h).2
  · decide

def isUpper (c : Char) : Bool := 'A' ≤ c && c ≤ 'Z'

def isLower (c : Char) : Bool := 'a' ≤ c && c ≤ 'z'

/-- What becomes of a character that is put in the other case. -/
structure CaseMapped (c : Char) : Prop where
  lower_singleton : lower [c] = [c.toLower]
  isLower_toLower : isLower c.toLower = isAsciiLetter c
  isAsciiLetter_toLower : isAsciiLetter c.toLower = isAsciiLetter c
  isAsciiDigit_toLower : isAsciiDigit c.toLower = isAsciiDigit c
  isUpper_toUpper : isUpper c.toUpper = isAsciiLetter c
  isAsciiLetter_toUpper : isAsciiLetter c.toUpper = isAsciiLetter c
  isAsciiDigit_toUpper : isAsciiDigit c.toUpper = isAsciiDigit c
  toNat_toUpper_lt : c.toUpper.toNat < 128
  toUpper_eq_underscore_iff : c.toUpper = '_' ↔ c = '_'

theorem caseMapped (h : c.toNat < 128) : CaseMapped c := by
  -- One decision about the numbers of all these characters.
  have hall : ∀ n < 128, let c := Char.ofNat n
      (lower [c] = [c.toLower] ∧ isLower c.toLower = isAsciiLetter c ∧ isAsciiLetter c.toLower = isAsciiLetter c ∧
        isAsciiDigit c.toLower = isAsciiDigit c) ∧
      (isUpper c.toUpper = isAsciiLetter c ∧ isAsciiLetter c.toUpper = isAsciiLetter c ∧
        isAsciiDigit c.toUpper = isAsciiDigit c) ∧ c.toUpper.toNat < 128 ∧ (c.toUpper = '_' ↔ c = '_') := by
    decide +kernel
  have hc := hall c.toNat h
  rw [Char.ofNat_toNat] at hc
  obtain ⟨⟨hlower, hsmall, hletter, hdigit⟩, ⟨hcapital, hupperLetter, hupperDigit⟩, hlt, hunderscore⟩ := hc
  exact ⟨hlower, hsmall, hletter, hdigit, hcapital, hupperLetter, hupperDigit, hlt, hunderscore⟩

theorem upperChar_eq (h : c.toNat < 128) : upperChar c = [c.toUpper] := if_pos h

end Ascii

/-! ### Underscores between words -/

section Boundaries

/-- Whether an underscore comes between two characters. -/
def parts (c d : Char) : Bool := (isLower c || isAsciiDigit c) && isUpper d

/-- An underscore comes in front of each capital letter that follows a small letter or a digit. -/
def withBoundaries : List Char → List Char
  | c :: d :: rest =>
    if parts c d then c :: '_' :: d :: withBoundaries rest else c :: withBoundaries (d :: rest)
  | text => text

theorem exists_withBoundaries_cons (c : Char) (rest : List Char) :
    ∃ more, withBoundaries (c :: rest) = c :: more := by
  cases rest with
  | nil => exact ⟨[], rfl⟩
  | cons d rest =>
    rw [withBoundaries]
    split
    · exact ⟨_, rfl⟩
    · exact ⟨_, rfl⟩

theorem mem_withBoundaries (h : d ∈ withBoundaries name) : d ∈ name ∨ d = '_' := by
  induction name using withBoundaries.induct with
  | case1 c e rest hparts ih =>
    rw [withBoundaries, if_pos hparts] at h
    simp only [List.mem_cons] at h ⊢
    rcases h with h | h | h | h
    · exact .inl (.inl h)
    · exact .inr h
    · exact .inl (.inr (.inl h))
    · exact (ih h).imp_left fun h => .inr (.inr h)
  | case2 c e rest hparts ih =>
    rw [withBoundaries, if_neg hparts, List.mem_cons] at h
    rcases h with h | h
    · exact .inl (List.mem_cons.2 (.inl h))
    · exact (ih h).imp_left (List.mem_cons_of_mem c)
  | case3 text hshort =>
    rw [withBoundaries.eq_2 text hshort] at h
    exact .inl h

variable {cursor : Cursor}

/-- The place behind two captured characters. -/
def behindBoundary (cursor : Cursor) (c d : Char) : Cursor :=
  ⟨d :: c :: cursor.before, cursor.after.drop 2, cursor.position + 2,
    [(2, ⟨cursor.position + 1, cursor.position + 2⟩), (1, ⟨cursor.position, cursor.position + 1⟩)]⟩

theorem ways_boundary (hgroups : cursor.groups = []) (hafter : cursor.after = c :: d :: rest) :
    boundary.ways cursor = if parts c d then [behindBoundary cursor c d] else [] := by
  obtain ⟨before, after, position, groups⟩ := cursor
  obtain rfl : groups = [] := hgroups
  obtain rfl : after = c :: d :: rest := hafter
  have hfirst :
      (capture 1 (char fun c => isLower c || isAsciiDigit c)).ways ⟨before, c :: d :: rest, position, []⟩ =
      if isLower c || isAsciiDigit c then [⟨c :: before, d :: rest, position + 1, [(1, ⟨position, position + 1⟩)]⟩]
      else [] := by
    rw [ways, ways, Cursor.step?]
    dsimp only
    split <;> rfl
  have hsecond :
      (capture 2 (char isUpper)).ways ⟨c :: before, d :: rest, position + 1, [(1, ⟨position, position + 1⟩)]⟩ =
      if isUpper d then [behindBoundary ⟨before, c :: d :: rest, position, []⟩ c d] else [] := by
    rw [ways, ways, Cursor.step?]
    dsimp only
    split <;> rfl
  change ((capture 1 (char fun c => isLower c || isAsciiDigit c)).ways ⟨before, c :: d :: rest, position, []⟩
    |>.flatMap (capture 2 (char isUpper)).ways) = _
  rw [hfirst, parts]
  cases isLower c || isAsciiDigit c with
  | false => rfl
  | true => rw [if_pos rfl, List.flatMap_singleton, hsecond, Bool.true_and]

theorem ways_boundary_of_short (h : cursor.after.length < 2) : boundary.ways cursor = [] := by
  refine List.eq_nil_iff_forall_not_mem.2 fun next hnext => ?_
  obtain ⟨middle, hmiddle, hnext⟩ := List.mem_flatMap.1 hnext
  obtain ⟨first, hfirst, -, hmiddle⟩ := exists_of_mem_ways_capture hmiddle
  obtain ⟨second, hsecond, -, hnext⟩ := exists_of_mem_ways_capture hnext
  obtain ⟨c, -, hc, -⟩ := passes_of_mem_ways_char hfirst
  obtain ⟨d, -, hd, -⟩ := passes_of_mem_ways_char hsecond
  have hafter := ((hmiddle _ hc).trans (hnext _ hd)).after
  rw [hafter, List.length_append, List.length_append, List.length_singleton, List.length_singleton] at h
  omega

/-- The text of both groups with an underscore in between. -/
def parted (found : Match) : List Char := found.group 1 ++ '_' :: found.group 2

theorem parted_eq (hplaced : cursor.Placed) (hafter : cursor.after = c :: d :: rest) :
    parted ⟨cursor, behindBoundary cursor c d⟩ = [c, '_', d] := by
  have hfirst : cursor.Passes [c] (cursor.forward [c]) := @Cursor.Passes.forward cursor [c] _ hafter
  have hrest : (cursor.forward [c]).after = d :: rest := @Cursor.after_forward cursor [c] _ hafter
  have hsecond : (cursor.forward [c]).Passes [d] (behindBoundary cursor c d) :=
    ⟨rfl, by rw [hrest, behindBoundary, hafter]; rfl, rfl⟩
  have hone : (behindBoundary cursor c d).group 1 = [c] := hfirst.group_eq hsecond hplaced rfl
  have htwo : (behindBoundary cursor c d).group 2 = [d] :=
    hsecond.group_eq (.refl _) (hfirst.placed hplaced) rfl
  rw [parted, Match.group, Match.group, hone, htwo]
  rfl

theorem rewriteFrom_boundary (hgroups : cursor.groups = []) (hplaced : cursor.Placed) {budget : Nat}
    (hbudget : cursor.after.length < budget) :
    boundary.rewriteFrom parted budget cursor = withBoundaries cursor.after := by
  -- Each step passes a character that is kept or two that are parted.
  induction hafter : cursor.after using withBoundaries.induct generalizing cursor budget with
  | case1 c d rest hparts ih =>
    obtain ⟨budget, rfl⟩ := Nat.exists_eq_succ_of_ne_zero (Nat.ne_zero_of_lt hbudget)
    have hway : (boundary.ways (cursor.forward [])).head? = some (behindBoundary cursor c d) := by
      change (boundary.ways cursor).head? = _
      rw [ways_boundary hgroups hafter, if_pos hparts]
      rfl
    have hpasses : (cursor.forward []).Passes [c, d] (behindBoundary cursor c d) :=
      ⟨rfl, by rw [behindBoundary, hafter]; exact hafter, rfl⟩
    have hrest : (behindBoundary cursor c d).fresh.after = rest := by
      change cursor.after.drop 2 = rest
      rw [hafter]
      rfl
    have hidle : boundary.Idle cursor [] := fun front others heq hothers =>
      absurd (List.append_eq_nil_iff.1 heq.symm).2 hothers
    rw [hafter] at hbudget
    rw [rewriteFrom_match hgroups (List.nil_append _).symm hidle hway hpasses (List.cons_ne_nil _ _),
      @ih (behindBoundary cursor c d).fresh rfl (hpasses.placed hplaced) budget
        (by rw [hrest]; exact Nat.lt_of_succ_lt (Nat.lt_of_succ_lt_succ hbudget)) hrest,
      withBoundaries, if_pos hparts]
    change [] ++ parted ⟨cursor, behindBoundary cursor c d⟩ ++ _ = _
    rw [parted_eq hplaced hafter]
    rfl
  | case2 c d rest hparts ih =>
    have hpasses : cursor.Passes [c] (cursor.forward [c]) := @Cursor.Passes.forward cursor [c] _ hafter
    have hrest : (cursor.forward [c]).after = d :: rest := @Cursor.after_forward cursor [c] _ hafter
    rw [rewriteFrom_cons hgroups hafter (by rw [ways_boundary hgroups hafter, if_neg hparts]),
      @ih (cursor.forward [c]) hgroups (hpasses.placed hplaced) budget
        (by rw [hrest]; rw [hafter] at hbudget; exact Nat.lt_of_succ_lt hbudget) hrest,
      withBoundaries, if_neg hparts]
  | case3 text hshort =>
    have hlength : cursor.after.length < 2 := by
      rw [hafter]
      match text, hshort with
      | [], _ => exact Nat.zero_lt_two
      | [_], _ => exact Nat.one_lt_two
      | c :: d :: rest, hshort => exact absurd rfl (hshort c d rest)
    have hidle : boundary.Idle cursor cursor.after := fun passed others heq _ => by
      refine ways_boundary_of_short ?_
      rw [Cursor.after_forward heq]
      rw [heq, List.length_append] at hlength
      omega
    have hend : boundary.ways (cursor.forward cursor.after) = [] := by
      refine ways_boundary_of_short ?_
      rw [Cursor.after_forward (List.append_nil _).symm]
      exact Nat.zero_lt_two
    rw [rewriteFrom_idle hgroups budget hidle hend, hafter, withBoundaries.eq_2 text hshort]

theorem toUpperSnake_eq (name : List Char) : toUpperSnake name = upper (withBoundaries name) := by
  have hrewrite := @rewriteFrom_boundary (.start name) rfl rfl (name.length + 1) (Nat.lt_succ_self _)
  rw [toUpperSnake, replaceAll_eq_rewrite]
  exact congrArg upper hrewrite

end Boundaries

/-! ### Words without underscores -/

section Words

/-- Whether a character stands between words. -/
def isSeparator (c : Char) : Bool := c == '_' || c == '-' || isBlank c

/-- What stands between words goes, and the first character behind it is put in upper case. -/
def capitalized : Bool → List Char → List Char
  | _, [] => []
  | first, c :: rest =>
    if isSeparator c then capitalized true rest
    else (if first then upperChar c else [c]) ++ capitalized false rest

theorem capitalized_append_cons (h : Free isSeparator text) (hc : isSeparator c = true) (first : Bool) :
    capitalized first (text ++ c :: rest) =
      (if first then mapFirst upperChar text else text) ++ capitalized true rest := by
  induction text generalizing first with
  | nil => cases first <;> exact if_pos hc
  | cons d text ih =>
    rw [List.cons_append, capitalized, if_neg (Bool.eq_false_iff.1 (h d List.mem_cons_self)), ih h.tail]
    cases first with
    | true => exact (List.append_assoc _ _ _).symm
    | false => rfl

theorem capitalized_free (h : Free isSeparator text) (first : Bool) :
    capitalized first text = if first then mapFirst upperChar text else text := by
  induction text generalizing first with
  | nil => cases first <;> rfl
  | cons d text ih =>
    rw [capitalized, if_neg (Bool.eq_false_iff.1 (h d List.mem_cons_self)), ih h.tail]
    cases first <;> rfl

theorem capitalized_separators (h : ∀ c ∈ text, isSeparator c = true) (rest : List Char) :
    capitalized true (text ++ rest) = capitalized true rest := by
  induction text with
  | nil => rfl
  | cons c text ih =>
    obtain ⟨hc, htext⟩ := List.forall_mem_cons.1 h
    rw [List.cons_append, capitalized, if_pos hc, ih htext]

variable {cursor : Cursor}

theorem ways_separators_of_head (h : ∀ c rest, cursor.after = c :: rest → isSeparator c = false) :
    separators.ways cursor = [] := by
  refine List.eq_nil_iff_forall_not_mem.2 fun next hnext => ?_
  obtain ⟨passed, hpassed, hpasses⟩ := @exists_passes separators rfl _ _ hnext
  obtain ⟨hne, hall⟩ := language_oneOrMore_iff.1 hpassed
  obtain ⟨c, passed, rfl⟩ := List.exists_cons_of_ne_nil hne
  have hc : isSeparator c = true := hall c List.mem_cons_self
  rw [h c (passed ++ next.after) hpasses.after] at hc
  cases hc

theorem idle_separators {front : List Char} (hafter : cursor.after = front ++ rest) (h : Free isSeparator front) :
    separators.Idle cursor front := by
  intro passed others heq hothers
  refine ways_separators_of_head fun c more hmore => ?_
  rw [heq, List.append_assoc] at hafter
  rw [Cursor.after_forward hafter] at hmore
  obtain ⟨d, others, rfl⟩ := List.exists_cons_of_ne_nil hothers
  obtain ⟨rfl, -⟩ := List.cons.inj hmore
  exact h d (heq ▸ List.mem_append_right passed List.mem_cons_self)

/-- From the first separator on everything up to the next word is taken. -/
theorem exists_gap (hafter : cursor.after = c :: rest) (hc : isSeparator c = true) :
    ∃ gap more, c :: rest = gap ++ more ∧ gap ≠ [] ∧ (∀ d ∈ gap, isSeparator d = true) ∧
      (separators.ways cursor).head? = some (cursor.forward gap) := by
  obtain ⟨finish, hfinish⟩ := @exists_head?_of_language separators rfl cursor [c] rest
    (language_oneOrMore_iff.2 ⟨List.cons_ne_nil c [], List.forall_mem_singleton.2 hc⟩) hafter
  obtain ⟨rfl, hne⟩ := @eq_forward_of_head? isSeparator _ _ hfinish
  rw [hafter] at hne hfinish
  exact ⟨_, _, List.takeWhile_append_dropWhile.symm, hne, fun _ => List.mem_takeWhile_imp, hfinish⟩

theorem flatMap_pieces (hgroups : cursor.groups = []) {budget : Nat} (hbudget : cursor.after.length < budget) :
    (pieces cursor (separators.allFrom budget cursor)).flatMap (mapFirst upperChar) =
      capitalized true cursor.after := by
  induction budget generalizing cursor with
  | zero => exact absurd hbudget (Nat.not_lt_zero _)
  | succ budget ih =>
    by_cases hfree : Free isSeparator cursor.after
    · have hend : separators.ways (cursor.forward cursor.after) = [] :=
        ways_separators_of_head fun c rest hrest => by
          rw [Cursor.after_forward (List.append_nil _).symm] at hrest
          cases hrest
      rw [pieces_idle hgroups _ (idle_separators (List.append_nil _).symm hfree) hend, List.flatMap_singleton,
        capitalized_free hfree, if_pos rfl]
    · obtain ⟨front, c, rest, hafter, hfront, hc⟩ := Free.exists_mark hfree
      have hrest : (cursor.forward front).after = c :: rest := Cursor.after_forward hafter
      obtain ⟨gap, more, hsplit, hne, hgap, hway⟩ := exists_gap hrest hc
      have hmore : ((cursor.forward front).forward gap).fresh.after = more :=
        Cursor.after_forward (hrest.trans hsplit)
      have hshorter : more.length < budget := by
        have hlength := List.length_pos_iff.2 hne
        rw [hafter, hsplit, List.length_append, List.length_append] at hbudget
        omega
      have hlater := @ih ((cursor.forward front).forward gap).fresh rfl (by rwa [hmore])
      have hskip := capitalized_separators hgap more
      rw [← hsplit, capitalized, if_pos hc] at hskip
      rw [pieces_match hgroups hafter (idle_separators hafter hfront) hway (.forward (hrest.trans hsplit)) hne,
        List.flatMap_cons, hlater, hmore, hafter, capitalized_append_cons hfront hc, if_pos rfl, hskip]

theorem toPascal_eq (name : List Char) : toPascal name = capitalized true name := by
  have hpieces := @flatMap_pieces (.start name) rfl (name.length + 1) (Nat.lt_succ_self _)
  rw [toPascal, split_eq_pieces]
  exact hpieces

end Words

/-! ### The conventions -/

section Conventions

/-- A name of letters and digits whose first character is of a certain kind. -/
theorem matchesStart_alphanumeric_iff {first : Char → Bool} (hfeed : '\n' ∉ text) :
    (all [start, char first, many letterOrDigit, finish]).matchesStart text = true ↔
      ∃ c rest, text = c :: rest ∧ first c = true ∧ ∀ d ∈ rest, isAsciiLetter d = true ∨ isAsciiDigit d = true := by
  have hways : ∀ cursor, (all [start, char first, many letterOrDigit, finish]).ways cursor =
      (seq start (seq (seq (char first) (many letterOrDigit)) finish)).ways cursor := fun cursor =>
    congrArg (List.flatMap · (start.ways cursor)) (funext fun next => ways_seq_assoc _ _ _ next)
  rw [matchesStart_congr hways, matchesStart_finish_iff rfl rfl hfeed]
  constructor
  · rintro ⟨_, rest, rfl, ⟨c, rfl, hc⟩, hrest⟩
    exact ⟨c, rest, rfl, hc, fun d hd => Bool.or_eq_true_iff.1 (spells_many_iff.1 hrest d hd)⟩
  · rintro ⟨c, rest, rfl, hc, hrest⟩
    exact ⟨[c], rest, rfl, ⟨c, rfl, hc⟩, spells_many_iff.2 fun d hd => Bool.or_eq_true_iff.2 (hrest d hd)⟩

/-- Every underscore is followed by another character. -/
def Tidy (text : List Char) : Prop :=
  ∀ front rest, text = front ++ '_' :: rest → ∃ c more, rest = c :: more ∧ c ≠ '_'

theorem tidy_nil : Tidy [] := fun front rest h => by simp at h

theorem tidy_cons_iff : Tidy (c :: rest) ↔ (c = '_' → ∃ d more, rest = d :: more ∧ d ≠ '_') ∧ Tidy rest := by
  constructor
  · intro h
    exact ⟨fun hc => h [] rest (by rw [hc]; rfl), fun front more heq => h (c :: front) more (by rw [heq]; rfl)⟩
  · rintro ⟨hhead, hrest⟩ (_ | ⟨d, front⟩) more heq
    · obtain ⟨rfl, rfl⟩ := List.cons.inj heq
      exact hhead rfl
    · exact hrest front more (List.cons.inj heq).2

theorem tidy_cons_of_ne (h : c ≠ '_') : Tidy (c :: rest) ↔ Tidy rest := by
  rw [tidy_cons_iff]
  exact and_iff_right fun hc => absurd hc h

/-- Underscores are followed by others exactly if none is last and no two stand next to each other. -/
theorem tidy_iff : Tidy text ↔ ¬['_'] <:+ text ∧ ¬['_', '_'] <:+: text := by
  constructor
  · intro h
    constructor
    · rintro ⟨front, rfl⟩
      obtain ⟨c, more, heq, -⟩ := h front [] rfl
      cases heq
    · rintro ⟨front, rest, rfl⟩
      obtain ⟨c, more, heq, hc⟩ := h front ('_' :: rest) (by simp)
      exact hc (List.cons.inj heq).1.symm
  · rintro ⟨hlast, hsingle⟩ front rest rfl
    cases rest with
    | nil => exact absurd ⟨front, rfl⟩ hlast
    | cons c more =>
      refine ⟨c, more, rfl, ?_⟩
      rintro rfl
      exact hsingle ⟨front, more, by simp⟩

/-- Whether a character is a capital letter or a digit. -/
def isCapital (c : Char) : Bool := isUpper c || isAsciiDigit c

theorem ne_underscore_of_isCapital (h : isCapital c = true) : c ≠ '_' := by
  rintro rfl
  exact absurd h (by decide)

/-- Capital letters, digits and underscores, each underscore with another character behind it. -/
def Snaked (text : List Char) : Prop := (∀ c ∈ text, isCapital c = true ∨ c = '_') ∧ Tidy text

theorem snaked_append (h : ∀ c ∈ text, isCapital c = true) (hrest : Snaked rest) : Snaked (text ++ rest) := by
  refine ⟨List.forall_mem_append.2 ⟨fun c hc => .inl (h c hc), hrest.1⟩, ?_⟩
  induction text with
  | nil => exact hrest.2
  | cons c text ih =>
    obtain ⟨hc, htext⟩ := List.forall_mem_cons.1 h
    exact (tidy_cons_of_ne (ne_underscore_of_isCapital hc)).2 (ih htext)

/-- Capital letters and digits behind an underscore. -/
def underscored : Pattern := all [only '_', oneOrMore upperOrDigit]

theorem spells_underscored_iff : underscored.spells text ↔
    ∃ run, text = '_' :: run ∧ run ≠ [] ∧ ∀ c ∈ run, isCapital c = true := by
  constructor
  · rintro ⟨_, run, rfl, ⟨c, rfl, hc⟩, hrun⟩
    obtain rfl := beq_iff_eq.1 hc
    exact ⟨run, rfl, spells_oneOrMore_iff.1 hrun⟩
  · rintro ⟨run, rfl, hrun⟩
    exact ⟨['_'], run, rfl, ⟨'_', rfl, rfl⟩, spells_oneOrMore_iff.2 hrun⟩

theorem snaked_of_underscored (h : (many underscored).spells text) : Snaked text := by
  obtain ⟨groups, rfl, -, -, hgroups⟩ := h
  induction groups with
  | nil => exact ⟨List.forall_mem_nil _, tidy_nil⟩
  | cons group groups ih =>
    obtain ⟨hgroup, hothers⟩ := List.forall_mem_cons.1 hgroups
    obtain ⟨run, rfl, hne, hrun⟩ := spells_underscored_iff.1 hgroup
    obtain ⟨c, run, rfl⟩ := List.exists_cons_of_ne_nil hne
    obtain ⟨hall, htidy⟩ := snaked_append hrun (ih hothers)
    have hc : c ≠ '_' := ne_underscore_of_isCapital (hrun c List.mem_cons_self)
    exact ⟨List.forall_mem_cons.2 ⟨.inr rfl, hall⟩, tidy_cons_iff.2 ⟨fun _ => ⟨c, _, rfl, hc⟩, htidy⟩⟩

/-- Up to the first underscore there is a run, and from there on groups. -/
theorem exists_underscored (h : Snaked text) : ∃ run groups, text = run ++ groups ∧
    (∀ c ∈ run, isCapital c = true) ∧ (many underscored).spells groups ∧ ∀ c ∈ groups.head?, c = '_' := by
  obtain ⟨hall, htidy⟩ := h
  induction text with
  | nil => exact ⟨[], [], rfl, List.forall_mem_nil _, spells_many_nil, nofun⟩
  | cons c text ih =>
    obtain ⟨hc, hall⟩ := List.forall_mem_cons.1 hall
    obtain ⟨hnext, htidy⟩ := tidy_cons_iff.1 htidy
    obtain ⟨run, groups, hsplit, hrun, hgroups, hhead⟩ := ih hall htidy
    rcases hc with hc | rfl
    · exact ⟨c :: run, groups, congrArg (c :: ·) hsplit, List.forall_mem_cons.2 ⟨hc, hrun⟩, hgroups, hhead⟩
    · -- What follows the underscore starts with a run, which the underscore makes a group.
      obtain ⟨d, more, htext, hd⟩ := hnext rfl
      have hne : run ≠ [] := by
        rintro rfl
        rw [List.nil_append, htext] at hsplit
        exact hd (hhead d (by rw [← hsplit]; rfl))
      have hgroup := spells_many_of_spells (spells_underscored_iff.2 ⟨run, rfl, hne, hrun⟩)
      exact ⟨[], '_' :: run ++ groups, congrArg ('_' :: ·) hsplit, List.forall_mem_nil _,
        spells_many_append hgroup hgroups, fun c hc => (Option.some.inj hc).symm⟩

/-- Runs of capital letters and digits with single underscores in front of all but the first one. -/
theorem spells_groups_iff : (seq (many upperOrDigit) (many underscored)).spells text ↔ Snaked text := by
  constructor
  · rintro ⟨run, groups, rfl, hrun, hgroups⟩
    exact snaked_append (spells_many_iff.1 hrun) (snaked_of_underscored hgroups)
  · intro h
    obtain ⟨run, groups, rfl, hrun, hgroups, -⟩ := exists_underscored h
    exact ⟨run, groups, rfl, spells_many_iff.2 hrun, hgroups⟩

/-- A name in upper snake case. -/
theorem matchesStart_upperSnake_iff (hfeed : '\n' ∉ text) : upperSnake.matchesStart text = true ↔
    ∃ c rest, text = c :: rest ∧ isUpper c = true ∧ (∀ d ∈ rest, isCapital d = true ∨ d = '_') ∧ Tidy text := by
  have hways : ∀ cursor, upperSnake.ways cursor = (seq start (seq (seq upperLetter
      (seq (many upperOrDigit) (many underscored))) finish)).ways cursor := fun cursor =>
    congrArg (List.flatMap · (start.ways cursor)) (funext fun next => by
      rw [← ways_seq_assoc]
      exact congrArg (List.flatMap · (upperLetter.ways next)) (funext fun next => ways_seq_assoc _ _ _ next))
  rw [matchesStart_congr hways, matchesStart_finish_iff rfl rfl hfeed]
  constructor
  · rintro ⟨_, rest, rfl, ⟨c, rfl, hc⟩, hrest⟩
    obtain ⟨hall, htidy⟩ := spells_groups_iff.1 hrest
    have hcapital : isCapital c = true := Bool.or_eq_true_iff.2 (.inl hc)
    exact ⟨c, rest, rfl, hc, hall, (tidy_cons_of_ne (ne_underscore_of_isCapital hcapital)).2 htidy⟩
  · rintro ⟨c, rest, rfl, hc, hall, htidy⟩
    have hcapital : isCapital c = true := Bool.or_eq_true_iff.2 (.inl hc)
    exact ⟨[c], rest, rfl, ⟨c, rfl, hc⟩,
      spells_groups_iff.2 ⟨hall, (tidy_cons_of_ne (ne_underscore_of_isCapital hcapital)).1 htidy⟩⟩

end Conventions

/-! ### Names that are rewritten -/

section Rewritten

/-- The characters of identifiers. -/
abbrev Spelled (name : List Char) : Prop := ∀ c ∈ name, isAsciiLetter c = true ∨ isAsciiDigit c = true ∨ c = '_'

/-- In identifiers only underscores separate words. -/
theorem isSeparator_iff (h : isAsciiLetter c = true ∨ isAsciiDigit c = true ∨ c = '_') :
    isSeparator c = true ↔ c = '_' := by
  have hall : ∀ n < 128, let c := Char.ofNat n
      isAsciiLetter c = true ∨ isAsciiDigit c = true ∨ c = '_' → (isSeparator c = true ↔ c = '_') := by
    decide +kernel
  have hascii := hall c.toNat (toNat_lt_of_spelled h)
  rw [Char.ofNat_toNat] at hascii
  exact hascii h

theorem alphanumeric_of_mem_capitalized (h : Spelled name) {first : Bool} (hd : d ∈ capitalized first name) :
    isAsciiLetter d = true ∨ isAsciiDigit d = true := by
  induction name generalizing first with
  | nil => cases hd
  | cons c name ih =>
    obtain ⟨hc, hname⟩ := List.forall_mem_cons.1 h
    rw [capitalized] at hd
    split at hd
    · exact ih hname hd
    · next hword =>
      rcases List.mem_append.1 hd with hd | hd
      · have hne : c ≠ '_' := fun heq => hword ((isSeparator_iff hc).2 heq)
        have hascii := toNat_lt_of_spelled hc
        have hcase := caseMapped hascii
        have hkept : isAsciiLetter c = true ∨ isAsciiDigit c = true :=
          hc.imp_right fun hc => hc.resolve_right hne
        cases first with
        | true =>
          rw [if_pos rfl, upperChar_eq hascii, List.mem_singleton] at hd
          rwa [hd, hcase.isAsciiLetter_toUpper, hcase.isAsciiDigit_toUpper]
        | false =>
          obtain rfl := List.mem_singleton.1 hd
          exact hkept
      · exact ih hname hd

/-- The new name starts with what comes first once the underscores at the front are gone. -/
theorem exists_toPascal_eq (h : Identifier name) : ∃ c rest, toPascal name = c.toUpper :: rest ∧ c.toNat < 128 ∧
    (∀ d ∈ toPascal name, isAsciiLetter d = true ∨ isAsciiDigit d = true) ∧
    (LetterFirst name ↔ isAsciiLetter c = true) := by
  have hall : ∀ d ∈ toPascal name, isAsciiLetter d = true ∨ isAsciiDigit d = true := by
    rw [toPascal_eq]
    exact fun d => alphanumeric_of_mem_capitalized h.spelled
  have hword : ¬Free (· != '_') name := fun hfree => by
    obtain ⟨c, hc, hletter⟩ := h.letter
    rw [bne_eq_false_iff_eq.1 (hfree c hc)] at hletter
    exact absurd hletter (by decide)
  obtain ⟨front, c, rest, rfl, hfront, hc⟩ := Free.exists_mark hword
  have hne : c ≠ '_' := bne_iff_ne.1 hc
  obtain ⟨hspelledFront, hspelled⟩ := List.forall_mem_append.1 h.spelled
  have hcSpelled := hspelled c List.mem_cons_self
  have hunderscores : ∀ d ∈ front, isSeparator d = true := fun d hd =>
    (isSeparator_iff (hspelledFront d hd)).2 (bne_eq_false_iff_eq.1 (hfront d hd))
  have hkept : ¬isSeparator c = true := fun hsep => hne ((isSeparator_iff hcSpelled).1 hsep)
  have hascii := toNat_lt_of_spelled hcSpelled
  refine ⟨c, capitalized false rest, ?_, hascii, hall, ?_⟩
  · rw [toPascal_eq, capitalized_separators hunderscores, capitalized, if_neg hkept, if_pos rfl, upperChar_eq hascii]
    rfl
  · constructor
    · rintro ⟨other, d, more, heq, hother, hletter⟩
      have hd : (d != '_') = true := bne_iff_ne.2 (by rintro rfl; exact absurd hletter (by decide))
      have hotherFree : Free (· != '_') other := fun e he => bne_eq_false_iff_eq.2 (hother e he)
      obtain ⟨-, rfl, -⟩ := hfront.append_cons_inj hotherFree hc hd heq
      exact hletter
    · exact fun hletter => ⟨front, c, rest, rfl, fun d hd => bne_eq_false_iff_eq.1 (hfront d hd), hletter⟩

/-- Of a name of letters and digits the first character tells whether it follows the convention. -/
theorem matchesStart_alphanumeric_cons_iff {first : Char → Bool}
    (h : ∀ d ∈ c :: rest, isAsciiLetter d = true ∨ isAsciiDigit d = true) :
    (all [start, char first, many letterOrDigit, finish]).matchesStart (c :: rest) = true ↔ first c = true := by
  have hfeed : '\n' ∉ c :: rest := fun hmem => absurd (h _ hmem) (by decide)
  rw [matchesStart_alphanumeric_iff hfeed]
  constructor
  · rintro ⟨d, more, heq, hd, -⟩
    obtain ⟨rfl, -⟩ := List.cons.inj heq
    exact hd
  · exact fun hc => ⟨c, rest, rfl, hc, fun d hd => h d (List.mem_cons_of_mem c hd)⟩

/-- The name in Pascal case follows the convention exactly if a letter comes first behind the underscores. -/
theorem matchesStart_toPascal_iff (h : Identifier name) :
    pascal.matchesStart (toPascal name) = true ↔ LetterFirst name := by
  obtain ⟨c, rest, heq, hascii, hall, hletter⟩ := exists_toPascal_eq h
  rw [heq] at hall
  rw [heq, hletter, ← (caseMapped hascii).isUpper_toUpper]
  exact matchesStart_alphanumeric_cons_iff hall

theorem matchesStart_toCamel_iff (h : Identifier name) :
    camel.matchesStart (toCamel name) = true ↔ LetterFirst name := by
  obtain ⟨c, rest, heq, hascii, hall, hletter⟩ := exists_toPascal_eq h
  have hupper := caseMapped hascii
  have hlower := caseMapped hupper.toNat_toUpper_lt
  have hcamel : toCamel name = c.toUpper.toLower :: rest := by
    rw [toCamel, heq, mapFirst, hlower.lower_singleton]
    rfl
  rw [heq] at hall
  obtain ⟨hc, hrest⟩ := List.forall_mem_cons.1 hall
  rw [hcamel, hletter, ← hupper.isAsciiLetter_toUpper, ← hlower.isLower_toLower]
  refine matchesStart_alphanumeric_cons_iff (List.forall_mem_cons.2 ⟨?_, hrest⟩)
  rwa [hlower.isAsciiLetter_toLower, hlower.isAsciiDigit_toLower]

theorem isWord_of_spelled (h : isAsciiLetter c = true ∨ isAsciiDigit c = true ∨ c = '_') : isWord c = true := by
  rw [isWord, if_pos (toNat_lt_of_spelled h)]
  simpa [or_assoc] using h

theorem spelled_toPascal (h : Identifier name) : toPascal name ≠ [] ∧ Spelled (toPascal name) := by
  obtain ⟨c, rest, heq, -, hall, -⟩ := exists_toPascal_eq h
  exact ⟨by rw [heq]; exact List.cons_ne_nil _ _, fun d hd => (hall d hd).imp_right .inl⟩

theorem spelled_toCamel (h : Identifier name) : toCamel name ≠ [] ∧ Spelled (toCamel name) := by
  obtain ⟨hne, hspelled⟩ := spelled_toPascal h
  obtain ⟨c, rest, heq⟩ := List.exists_cons_of_ne_nil hne
  rw [heq] at hspelled
  obtain ⟨hc, hrest⟩ := List.forall_mem_cons.1 hspelled
  have hcase := caseMapped (toNat_lt_of_spelled hc)
  rw [toCamel, heq, mapFirst, hcase.lower_singleton]
  refine ⟨List.cons_ne_nil _ _, List.forall_mem_cons.2 ⟨?_, hrest⟩⟩
  rcases hc with hc | hc | rfl
  · exact .inl (hcase.isAsciiLetter_toLower.trans hc)
  · exact .inr (.inl (hcase.isAsciiDigit_toLower.trans hc))
  · decide

/-! ### Upper snake case -/

theorem tidy_withBoundaries_iff : Tidy (withBoundaries name) ↔ Tidy name := by
  induction name using withBoundaries.induct with
  | case1 c d rest hparts ih =>
    obtain ⟨hc, hd⟩ := Bool.and_eq_true_iff.1 hparts
    have hcNe : c ≠ '_' := by rintro rfl; exact absurd hc (by decide)
    have hdNe : d ≠ '_' := by rintro rfl; exact absurd hd (by decide)
    rw [withBoundaries, if_pos hparts, tidy_cons_of_ne hcNe, tidy_cons_iff, tidy_cons_of_ne hdNe, ih,
      tidy_cons_of_ne hcNe, tidy_cons_of_ne hdNe]
    exact and_iff_right fun _ => ⟨d, _, rfl, hdNe⟩
  | case2 c d rest hparts ih =>
    have hhead : ∃ more, withBoundaries (d :: rest) = d :: more := exists_withBoundaries_cons d rest
    obtain ⟨more, hmore⟩ := hhead
    rw [withBoundaries, if_neg hparts, tidy_cons_iff, tidy_cons_iff, ih, hmore]
    simp
  | case3 text hshort => rw [withBoundaries.eq_2 text hshort]

theorem upper_eq_map (h : Spelled text) : upper text = text.map Char.toUpper := by
  induction text with
  | nil => rfl
  | cons c text ih =>
    obtain ⟨hc, htext⟩ := List.forall_mem_cons.1 h
    rw [upper, List.flatMap_cons, upperChar_eq (toNat_lt_of_spelled hc), List.map_cons]
    exact congrArg (c.toUpper :: ·) (ih htext)

theorem tidy_map_iff (h : Spelled text) : Tidy (text.map Char.toUpper) ↔ Tidy text := by
  induction text with
  | nil => exact Iff.rfl
  | cons c text ih =>
    obtain ⟨hc, htext⟩ := List.forall_mem_cons.1 h
    rw [List.map_cons, tidy_cons_iff, tidy_cons_iff, ih htext,
      (caseMapped (toNat_lt_of_spelled hc)).toUpper_eq_underscore_iff]
    refine and_congr_left fun _ => imp_congr_right fun _ => ?_
    cases text with
    | nil => simp
    | cons d text => simp [(caseMapped (toNat_lt_of_spelled (htext d List.mem_cons_self))).toUpper_eq_underscore_iff]

theorem capital_toUpper (h : isAsciiLetter c = true ∨ isAsciiDigit c = true ∨ c = '_') :
    isCapital c.toUpper = true ∨ c.toUpper = '_' := by
  have hcase := caseMapped (toNat_lt_of_spelled h)
  rw [isCapital, hcase.isUpper_toUpper, hcase.isAsciiDigit_toUpper, hcase.toUpper_eq_underscore_iff,
    Bool.or_eq_true, or_assoc]
  exact h

/-- The name in upper snake case starts as the name does, and its underscores stand as those of the name do. -/
theorem exists_toUpperSnake_eq (h : Identifier name) : ∃ c rest more, name = c :: rest ∧
    toUpperSnake name = c.toUpper :: more ∧ (∀ d ∈ toUpperSnake name, isCapital d = true ∨ d = '_') ∧
    (Tidy (toUpperSnake name) ↔ Tidy name) := by
  have hspelled : Spelled (withBoundaries name) := fun d hd =>
    (mem_withBoundaries hd).elim (h.spelled d) fun heq => .inr (.inr heq)
  obtain ⟨letter, hletter, -⟩ := h.letter
  obtain ⟨c, rest, rfl⟩ := List.exists_cons_of_ne_nil (List.ne_nil_of_mem hletter)
  obtain ⟨more, hmore⟩ := exists_withBoundaries_cons c rest
  rw [toUpperSnake_eq, upper_eq_map hspelled]
  refine ⟨c, rest, more.map Char.toUpper, rfl, by rw [hmore, List.map_cons], fun d hd => ?_,
    (tidy_map_iff hspelled).trans tidy_withBoundaries_iff⟩
  obtain ⟨e, he, rfl⟩ := List.mem_map.1 hd
  exact capital_toUpper (hspelled e he)

theorem spelled_toUpperSnake (h : Identifier name) : toUpperSnake name ≠ [] ∧ Spelled (toUpperSnake name) := by
  obtain ⟨c, rest, more, -, heq, hall, -⟩ := exists_toUpperSnake_eq h
  refine ⟨by rw [heq]; exact List.cons_ne_nil _ _, fun d hd => ?_⟩
  rcases hall d hd with hd | rfl
  · rcases Bool.or_eq_true_iff.1 hd with hd | hd
    · exact .inl (Bool.or_eq_true_iff.2 (.inr hd))
    · exact .inr (.inl hd)
  · exact .inr (.inr rfl)

/-- An identifier starts with a letter or an underscore. -/
theorem Identifier.isAsciiLetter_head_iff (h : Identifier (c :: rest)) :
    isAsciiLetter c = true ↔ ¬['_'] <+: c :: rest := by
  have hc := h.spelled c List.mem_cons_self
  rw [h.lead c rfl] at hc
  constructor
  · rintro hletter hbegins
    obtain ⟨rfl, -⟩ := List.cons_prefix_cons.1 hbegins
    exact absurd hletter (by decide)
  · intro hnot
    refine hc.resolve_right fun hc => ?_
    rcases hc with hc | rfl
    · cases hc
    · exact hnot (List.prefix_append ['_'] rest)

/-- The name in upper snake case follows the convention exactly if its underscores stand one by one between other
characters. -/
theorem matchesStart_toUpperSnake_iff (h : Identifier name) :
    upperSnake.matchesStart (toUpperSnake name) = true ↔ Grouped name := by
  obtain ⟨c, rest, more, rfl, heq, hcapital, htidy⟩ := exists_toUpperSnake_eq h
  have hfeed : '\n' ∉ toUpperSnake (c :: rest) := fun hmem => absurd (hcapital _ hmem) (by decide)
  have hupper : isUpper c.toUpper = isAsciiLetter c :=
    (caseMapped (toNat_lt_of_spelled (h.spelled c List.mem_cons_self))).isUpper_toUpper
  rw [matchesStart_upperSnake_iff hfeed, htidy]
  rw [heq] at hcapital ⊢
  constructor
  · rintro ⟨d, others, heq, hd, -, hchain⟩
    obtain ⟨rfl, -⟩ := List.cons.inj heq
    obtain ⟨hlast, hsingle⟩ := tidy_iff.1 hchain
    exact ⟨h.isAsciiLetter_head_iff.1 (hupper.symm.trans hd), hlast, hsingle⟩
  · intro hgrouped
    exact ⟨c.toUpper, more, rfl, hupper.trans (h.isAsciiLetter_head_iff.2 hgrouped.head),
      fun d hd => hcapital d (List.mem_cons_of_mem _ hd), tidy_iff.2 ⟨hgrouped.last, hgrouped.single⟩⟩

end Rewritten

end KotlinAudit.Text.NameCase
