import KotlinAudit.Proofs.Pattern.Captured
import KotlinAudit.Proofs.Text.Lines

/-! Numbers that are announced. A pattern for them matches a sign, some glue, and then what the sign announces;
so where the sign does not occur, or something else comes behind it, no match starts. -/
namespace KotlinAudit

open Text (Free)

/-- Characters that may stand between a sign and what it announces. -/
def isGlue (c : Char) : Bool := c == ':' || Text.isBlank c

/-- All characters that are glue. -/
def glueChars : List Char :=
  ([0x3A] ++ List.range' 9 5 ++ List.range' 28 5 ++ [0x85, 0xA0, 0x1680] ++ List.range' 0x2000 11 ++
    [0x2028, 0x2029, 0x202F, 0x205F, 0x3000]).map Char.ofNat

theorem mem_glueChars {c : Char} (h : isGlue c = true) : c ∈ glueChars := by
  refine List.mem_map.2 ⟨c.toNat, ?_, Char.ofNat_toNat c⟩
  simp only [isGlue, Text.isBlank, Text.isSpace, Bool.or_eq_true, Bool.and_eq_true, beq_iff_eq,
    decide_eq_true_eq] at h
  simp only [List.mem_append, List.mem_range'_1, List.mem_cons, List.not_mem_nil, or_false]
  rcases h with rfl | h
  · exact .inl (.inl (.inl (.inl (.inl rfl))))
  · omega

/-- What holds of no glue in the list holds of none. -/
theorem isGlue_of_free {marks : Char → Bool} (h : Free marks glueChars) {c : Char} (hc : marks c = true) :
    isGlue c = false := by
  rw [Bool.eq_false_iff]
  intro hglue
  rw [h c (mem_glueChars hglue)] at hc
  cases hc

theorem isGlue_of_isWord {c : Char} (h : Text.isWord c = true) : isGlue c = false :=
  isGlue_of_free (by decide +kernel) h

theorem isGlue_of_isDigit {c : Char} (h : Text.isDigit c = true) : isGlue c = false :=
  isGlue_of_free (by decide +kernel) h

/-- A stretch of glue. -/
structure Glue (text : List Char) : Prop where
  ne : text ≠ []
  all : ∀ c ∈ text, isGlue c = true

namespace Glue

instance (text : List Char) : Decidable (Glue text) :=
  decidable_of_iff (text ≠ [] ∧ text.all isGlue = true)
    ⟨fun h => ⟨h.1, List.all_eq_true.1 h.2⟩, fun h => ⟨h.ne, List.all_eq_true.2 h.all⟩⟩

theorem one {c : Char} (h : isGlue c = true) : Glue [c] :=
  ⟨List.cons_ne_nil c [], List.forall_mem_singleton.2 h⟩

/-- A word, the glue behind it and the first character behind the glue are determined. -/
theorem split_unique {word other glue between rest more : List Char} {c d : Char} (h : Glue glue)
    (hbetween : Glue between) (hword : Free isGlue word) (hother : Free isGlue other)
    (hc : isGlue c = false) (hd : isGlue d = false)
    (heq : word ++ (glue ++ c :: rest) = other ++ (between ++ d :: more)) :
    word = other ∧ glue = between ∧ c = d ∧ rest = more := by
  obtain ⟨hne, hall⟩ := h
  obtain ⟨hne', hall'⟩ := hbetween
  obtain ⟨g, glue, rfl⟩ := List.exists_cons_of_ne_nil hne
  obtain ⟨g', between, rfl⟩ := List.exists_cons_of_ne_nil hne'
  rw [List.forall_mem_cons] at hall hall'
  obtain ⟨hsame, rfl, hrest⟩ := hword.append_cons_inj hother hall.1 hall'.1 heq
  have hfree : ∀ {glue : List Char}, (∀ e ∈ glue, isGlue e = true) → Free (!isGlue ·) glue :=
    fun hall e he => by simp [hall e he]
  obtain ⟨hsame', hcd, hmore⟩ := (hfree hall.2).append_cons_inj (hfree hall'.2) (by simp [hc])
    (by simp [hd]) hrest
  exact ⟨hsame, congrArg (g :: ·) hsame', hcd, hmore⟩

end Glue

namespace Pattern

open Cursor (Passes)

/-! ### Texts in any case -/

theorem language_textAnyCase {expected text : List Char} :
    (all (expected.map fun c => char (sameLetter c))).language text ↔
      List.Forall₂ (fun c d => sameLetter c d = true) expected text := language_all_char_iff

/-! ### Where no match starts -/

/-- No match starts in a text that `rest` follows. -/
def Calm (pattern : Pattern) (text rest : List Char) : Prop :=
  ∀ cursor : Cursor, cursor.after = text ++ rest → pattern.Idle cursor text

section Calm

variable {pattern : Pattern} {text more rest : List Char}

theorem Calm.append (h : pattern.Calm text (more ++ rest)) (hmore : pattern.Calm more rest) :
    pattern.Calm (text ++ more) rest := by
  intro cursor hafter
  rw [List.append_assoc] at hafter
  exact (h cursor hafter).append (hmore _ (Cursor.after_forward hafter))

/-- It is enough to look at the places in the text. -/
theorem Calm.of_ways (h : ∀ passed others, text = passed ++ others → others ≠ [] →
    ∀ cursor : Cursor, cursor.after = others ++ rest → pattern.ways cursor = []) :
    pattern.Calm text rest := by
  intro cursor hafter passed others heq hothers
  refine h passed others heq hothers _ (Cursor.after_forward ?_)
  rw [hafter, heq, List.append_assoc]

end Calm

/-- What a pattern matches begins with a character of a kind, which is no glue. -/
def Begins (pattern : Pattern) (starts : Char → Bool) : Prop :=
  ∀ text, pattern.language text → ∃ c rest, text = c :: rest ∧ starts c = true ∧ isGlue c = false

theorem begins_digits (group : Nat) : (capture group (oneOrMore digit)).Begins Text.isDigit := by
  intro text htext
  obtain ⟨hne, hall⟩ := language_oneOrMore_iff.1 htext
  obtain ⟨c, rest, rfl⟩ := List.exists_cons_of_ne_nil hne
  have hc := hall c List.mem_cons_self
  exact ⟨c, rest, rfl, hc, isGlue_of_isDigit hc⟩

/-- A pattern for what a sign announces: glue follows the sign, and behind the glue a character of a kind. -/
structure Announced (pattern sign : Pattern) (starts : Char → Bool) : Prop where
  plain : pattern.isPlain = true
  plainSign : sign.isPlain = true
  split : ∀ text, pattern.language text → ∃ word glue c rest, text = word ++ (glue ++ c :: rest) ∧
    sign.language word ∧ Free isGlue word ∧ Glue glue ∧ starts c = true ∧ isGlue c = false

namespace Announced

variable {pattern sign : Pattern} {starts : Char → Bool}

theorem of_parts {body : Pattern} {glues : Char → Bool} (hsign : sign.isPlain = true)
    (hbody : body.isPlain = true) (hword : ∀ word, sign.language word → Free isGlue word)
    (hglues : ∀ c, glues c = true → isGlue c = true) (hbegins : body.Begins starts) :
    (seq sign (seq (oneOrMore (char glues)) body)).Announced sign starts where
  plain := by rw [isPlain, isPlain, hsign, hbody]; rfl
  plainSign := hsign
  split := by
    rintro text ⟨word, others, rfl, hsigned, glue, announced, rfl, hglue, hannounced⟩
    obtain ⟨c, rest, rfl, hstarts, hc⟩ := hbegins announced hannounced
    obtain ⟨hne, hall⟩ := language_oneOrMore_iff.1 hglue
    exact ⟨word, glue, c, rest, rfl, hsigned, hword word hsigned, ⟨hne, fun d hd => hglues d (hall d hd)⟩,
      hstarts, hc⟩

theorem either {first second other both : Pattern} {starts' : Char → Bool}
    (h : first.Announced sign starts) (hsecond : second.Announced other starts')
    (hplain : both.isPlain = true)
    (hboth : ∀ word, sign.language word ∨ other.language word → both.language word) :
    (Pattern.either first second).Announced both fun c => starts c || starts' c where
  plain := by rw [isPlain, h.plain, hsecond.plain]; rfl
  plainSign := hplain
  split := by
    rintro text (htext | htext)
    · obtain ⟨word, glue, c, rest, heq, hsigned, hword, hglue, hstarts, hc⟩ := h.split text htext
      exact ⟨word, glue, c, rest, heq, hboth word (.inl hsigned), hword, hglue, by rw [hstarts]; rfl, hc⟩
    · obtain ⟨word, glue, c, rest, heq, hsigned, hword, hglue, hstarts, hc⟩ := hsecond.split text htext
      exact ⟨word, glue, c, rest, heq, hboth word (.inr hsigned), hword, hglue,
        by rw [hstarts, Bool.or_true], hc⟩

variable (h : pattern.Announced sign starts)

include h

theorem exists_of_mem_ways {cursor next : Cursor} (hnext : next ∈ pattern.ways cursor) :
    ∃ word glue c rest, cursor.after = word ++ (glue ++ c :: rest) ∧ sign.language word ∧
      Free isGlue word ∧ Glue glue ∧ starts c = true ∧ isGlue c = false := by
  obtain ⟨passed, hpassed, hpasses⟩ := exists_passes h.plain hnext
  obtain ⟨word, glue, c, rest, rfl, hsigned, hword, hglue, hstarts, hc⟩ := h.split passed hpassed
  refine ⟨word, glue, c, rest ++ next.after, ?_, hsigned, hword, hglue, hstarts, hc⟩
  rw [hpasses.after, List.append_assoc, List.append_assoc, List.cons_append]

/-- Behind a word and some glue, a match goes on with a character that is no glue. -/
theorem ways_of_word {cursor : Cursor} {word glue rest : List Char} {c : Char} (hword : Free isGlue word)
    (hglue : Glue glue) (hc : isGlue c = false)
    (hafter : cursor.after = word ++ (glue ++ c :: rest)) (hstarts : starts c = false) :
    pattern.ways cursor = [] := by
  by_contra hways
  obtain ⟨next, hnext⟩ := List.exists_mem_of_ne_nil _ hways
  obtain ⟨other, between, d, others, heq, -, hother, hbetween, hd, hd'⟩ := h.exists_of_mem_ways hnext
  obtain ⟨-, -, rfl, -⟩ := hglue.split_unique hbetween hword hother hc hd' (hafter.symm.trans heq)
  rw [hstarts] at hd
  cases hd

/-- No match starts in a word behind which the wrong thing comes. -/
theorem calm_word {word rest : List Char} {g c : Char} (hword : Free isGlue word)
    (hg : isGlue g = true) (hc : isGlue c = false) (hstarts : starts c = false) :
    pattern.Calm word (g :: c :: rest) := by
  refine .of_ways fun passed others heq _ cursor hafter => ?_
  exact h.ways_of_word (fun d hd => hword d (heq ▸ List.mem_append_right passed hd)) (.one hg) hc
    hafter hstarts

/-- No match starts in a text in which the sign does not occur, if a word that is cut off at its end is no
concern. -/
theorem calm_text {text rest : List Char} (hsign : (seq sign (char isGlue)).occursIn text = false)
    (hend : rest = [] ∨ text.getLast?.any isGlue = true) : pattern.Calm text rest := by
  refine .of_ways fun passed others heq hothers cursor hafter => ?_
  by_contra hways
  obtain ⟨next, hnext⟩ := List.exists_mem_of_ne_nil _ hways
  obtain ⟨word, glue, c, back, hmatch, hsigned, hword, ⟨hne, hglue⟩, -, -⟩ := h.exists_of_mem_ways hnext
  obtain ⟨g, glue, rfl⟩ := List.exists_cons_of_ne_nil hne
  rw [hafter] at hmatch
  rw [List.forall_mem_cons] at hglue
  have hlong : ∀ beyond, word = others ++ beyond → rest = [] := by
    intro beyond hbeyond
    refine hend.resolve_right fun hlast => ?_
    rw [heq, List.getLast?_append_of_ne_nil _ hothers, List.getLast?_eq_some_getLast hothers,
      Option.any_some, hword _ (hbeyond ▸ List.mem_append_left _ (List.getLast_mem hothers))] at hlast
    cases hlast
  -- The sign and the glue behind it do not run over the end of the text.
  have hwithin : ∃ inside, others = word ++ g :: inside := by
    rcases List.append_eq_append_iff.1 hmatch with ⟨beyond, hbeyond, hrest⟩ | ⟨inside, hinside, hrest⟩
    · rw [hlong beyond hbeyond] at hrest
      simp at hrest
    · cases inside with
      | nil =>
        rw [List.append_nil] at hinside
        rw [hlong [] (by rw [hinside, List.append_nil])] at hrest
        cases hrest
      | cons d inside =>
        obtain ⟨rfl, -⟩ := List.cons.inj hrest
        exact ⟨inside, hinside⟩
  obtain ⟨inside, rfl⟩ := hwithin
  have hoccurs : (seq sign (char isGlue)).occursIn (passed ++ ((word ++ [g]) ++ inside)) = true := by
    have hplain : (seq sign (char isGlue)).isPlain = true := by rw [isPlain, h.plainSign]; rfl
    exact occursIn_of_matchesWhole hplain ((matchesWhole_iff hplain).2
      ⟨word, [g], rfl, hsigned, g, rfl, hglue.1⟩)
  rw [List.append_assoc, List.singleton_append, ← heq, hsign] at hoccurs
  cases hoccurs

theorem ways_at_end {cursor : Cursor} (hafter : cursor.after = []) : pattern.ways cursor = [] := by
  by_contra hways
  obtain ⟨next, hnext⟩ := List.exists_mem_of_ne_nil _ hways
  obtain ⟨word, glue, c, back, hmatch, -⟩ := h.exists_of_mem_ways hnext
  simp [hafter] at hmatch

end Announced

/-! ### What is found -/

/-- Where no match starts, nothing is found. -/
theorem search?_of_calm {pattern sign : Pattern} {starts : Char → Bool} (h : pattern.Announced sign starts)
    {text : List Char} (hcalm : pattern.Calm text []) : pattern.search? text = none := by
  rw [← Option.isNone_iff_eq_none, ← Option.isSome_eq_false_iff, Bool.eq_false_iff, ne_eq]
  intro hfound
  obtain ⟨passed, rest, hafter, hways⟩ := (isSome_searchFrom?_iff rfl).1 hfound
  cases rest with
  | nil =>
    refine hways (h.ways_at_end ?_)
    exact Cursor.after_forward hafter
  | cons c rest =>
    exact hways (hcalm (.start text) (List.append_nil text).symm passed (c :: rest) hafter
      (List.cons_ne_nil c rest))

/-- A match that starts behind a text in which none starts is the one found. -/
theorem search?_of_way {pattern : Pattern} {front rest : List Char} {finish : Cursor}
    (hcalm : pattern.Calm front rest)
    (hway : (pattern.ways ((Cursor.start (front ++ rest)).forward front)).head? = some finish) :
    pattern.search? (front ++ rest) = some ⟨(Cursor.start (front ++ rest)).forward front, finish⟩ := by
  have hstart := hcalm (.start (front ++ rest)) rfl
  rw [search?, searchFrom?_forward rfl rfl hstart, searchFrom?_of_way hway]

end Pattern
end KotlinAudit
