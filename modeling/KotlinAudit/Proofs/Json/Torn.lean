import KotlinAudit.Proofs.Json.Line
import KotlinAudit.Proofs.Json.Steps

/-! Pieces of written objects. An object that is cut inside of one of its texts is no value up to the
cut, and behind the cut the texts and what stands between them have changed parts, so that no object is
read there with a key of the written one. An object behind some other text is no value either, unless
there are only blanks in front of it. -/
namespace KotlinAudit.Json

/-! ### Reading -/

theorem readChar_eq_ok {progress : Progress} {mode : Mode} {c : Char} {next : Progress × Mode}
    (h : readChar .record (progress, mode) c = .ok next) : ∃ tokens,
      mode.next? .record c = some (tokens, next.2) ∧ advance progress tokens = .ok next.1 := by
  unfold readChar at h
  dsimp only at h
  cases hmode : mode.next? .record c with
  | none =>
    rw [hmode] at h
    cases h
  | some found =>
    obtain ⟨tokens, after⟩ := found
    rw [hmode] at h
    obtain ⟨last, hlast, rfl⟩ := Outcome.map_eq_ok.1 h
    exact ⟨tokens, rfl, hlast⟩

theorem feed_append (state : Progress × Mode) (text rest : List Char) :
    feed .record state (text ++ rest) = feed .record state text >>= (feed .record · rest) :=
  List.foldlM_append

theorem feed_cons_eq_ok {state last : Progress × Mode} {c : Char} {rest : List Char}
    (h : feed .record state (c :: rest) = .ok last) :
    ∃ next, readChar .record state c = .ok next ∧ feed .record next rest = .ok last := by
  rw [feed_cons] at h
  exact Outcome.bind_eq_ok.1 h

theorem feed_append_eq_ok {state last : Progress × Mode} {text rest : List Char}
    (h : feed .record state (text ++ rest) = .ok last) :
    ∃ next, feed .record state text = .ok next ∧ feed .record next rest = .ok last := by
  rw [feed_append] at h
  exact Outcome.bind_eq_ok.1 h

/-- The end of a text that has been read. -/
theorem read_eq_ok {text : List Char} {json : Json} (h : read .record text = .ok json) :
    ∃ progress mode tokens last, feed .record (.start, .between) text = .ok (progress, mode) ∧
      mode.last? = some tokens ∧ advance progress tokens = .ok last ∧
      last.expected = .nothing json := by
  unfold read at h
  obtain ⟨⟨progress, mode⟩, hfeed, h⟩ := Outcome.bind_eq_ok.1 h
  dsimp only at h
  split at h
  · next tokens htokens =>
    obtain ⟨last, hlast, h⟩ := Outcome.bind_eq_ok.1 h
    split at h
    · next hresult =>
      cases h
      exact ⟨progress, mode, tokens, last, hfeed, htokens, hlast, hresult⟩
    · cases h
  · cases h

/-- A word with a foreign character is not accepted anywhere. -/
theorem advance_word_ne_ok {word : List Char} {c : Char} (hmem : c ∈ word) (hc : Foreign c)
    (progress last : Progress) (rest : List Token) :
    advance progress (.word word :: rest) ≠ .ok last := by
  intro h
  obtain ⟨next, hnext, -⟩ := advance_cons_eq_ok h
  cases hnext with
  | word hawaits hvalue => exact ofWord_of_foreign hmem hc _ hvalue

/-- A character that is read between texts gives no text. -/
theorem begin_ne_text (c : Char) (content : String) : .text content ∉ (begin c).1 := by
  unfold begin
  split <;> simp

/-! ### Behind a cut -/

/-- How a text is read behind a cut, by the side on which it has been written: what is written outside
of texts is read inside of them, and the other way round. -/
inductive Flipped : Side → Mode → Prop
  | outside (units : List Nat) {first : Char} (mark : isMark first = true) :
    Flipped .outside (.quoted (units ++ [first.toNat]))
  | behind : Flipped .behind (.quoted [])
  | between : Flipped .inside .between
  | word (read : List Char) : Flipped .inside (.word read)
  | escaped {read : List Char} (escape : '\\' ∈ read) : Flipped .escaped (.word read)

theorem ofUnits?_cons_char {c : Char} {units : List Nat} {chars : List Char}
    (h : ofUnits? .record (c.toNat :: units) = some chars) : ∃ rest, chars = c :: rest := by
  have hhalf := not_half_of_char c
  obtain ⟨hhigh, hlow⟩ := Bool.or_eq_false_iff.1 hhalf
  cases units with
  | nil =>
    simp only [ofUnits?, hhalf, Bool.false_eq_true, if_false, Char.ofNat_toNat,
      Option.some.injEq] at h
    exact ⟨[], h.symm⟩
  | cons unit units =>
    simp only [ofUnits?, hhigh, hlow, Bool.false_and, Bool.or_false, Bool.false_eq_true, if_false,
      Char.ofNat_toNat] at h
    obtain ⟨rest, -, rfl⟩ := Option.map_eq_some_iff.1 h
    exact ⟨rest, rfl⟩

/-- A character outside of texts goes on with the mode that reading it begins. -/
theorem flipped_begin {c : Char} {side : Side} (h : Side.inside.next? c = some side) :
    Flipped side (begin c).2 := by
  by_cases hquote : c = '"'
  · subst hquote
    cases h
    exact .behind
  by_cases hescape : c = '\\'
  · subst hescape
    cases h
    exact .escaped (List.mem_singleton_self _)
  rw [Side.next?_inside hquote hescape] at h
  cases h
  unfold begin
  split
  case h_11 => exact absurd rfl hquote
  all_goals first | exact .between | exact .word _

variable {name : String} {side next : Side} {mode after : Mode} {c : Char} {tokens : List Token}

/-- A word that goes on or ends behind a cut. -/
theorem Flipped.step_word {read : List Char} (hescape : side = .escaped → '\\' ∈ read)
    (hside : side = .inside ∨ side = .escaped) (hnext : side.next? c = some next)
    (hmode : (Mode.word read).next? .record c = some (tokens, after)) :
    (∃ word rest, tokens = .word word :: rest ∧ '\\' ∈ word) ∨
      Flipped next after ∧ ∀ content, .text content ∉ tokens := by
  rw [Mode.next?] at hmode
  by_cases hends : endsWord c = true
  · rw [if_pos hends] at hmode
    cases hmode
    rcases hside with rfl | rfl
    · refine .inr ⟨flipped_begin hnext, fun content hmem => ?_⟩
      exact begin_ne_text c content ((List.mem_cons.1 hmem).resolve_left (by rintro ⟨⟩))
    · exact .inl ⟨_, _, rfl, List.mem_reverse.2 (hescape rfl)⟩
  · rw [if_neg hends] at hmode
    cases hmode
    refine .inr ⟨?_, fun content => List.not_mem_nil⟩
    rcases hside with rfl | rfl
    · have hquote : c ≠ '"' := by
        rintro rfl
        exact hends rfl
      by_cases hbackslash : c = '\\'
      · subst hbackslash
        cases hnext
        exact .escaped List.mem_cons_self
      · rw [Side.next?_inside hquote hbackslash] at hnext
        cases hnext
        exact .word _
    · rw [Side.next?] at hnext
      split at hnext
      · cases hnext
        exact .word _
      · cases hnext

/-- One more character behind a cut. No text that is read is a name that begins with no mark. -/
theorem Flipped.step (h : Flipped side mode) (hname : ∀ c ∈ name.toList.head?, isMark c = false)
    (hnext : side.next? c = some next)
    (hmode : mode.next? .record c = some (tokens, after)) :
    (∃ word rest, tokens = .word word :: rest ∧ '\\' ∈ word) ∨
      Flipped next after ∧ .text name ∉ tokens := by
  cases h with
  | outside units hmark =>
    rename_i first
    rw [Mode.next?] at hmode
    rw [Side.next?] at hnext
    right
    by_cases hquote : (c == '"') = true
    · rw [if_pos hquote] at hmode hnext
      obtain ⟨chars, hchars, heq⟩ := Option.map_eq_some_iff.1 hmode
      cases heq
      cases hnext
      rw [List.reverse_append, List.reverse_singleton, List.singleton_append] at hchars
      obtain ⟨rest, rfl⟩ := ofUnits?_cons_char hchars
      refine ⟨.between, fun hmem => ?_⟩
      have hcontent : name = String.ofList (first :: rest) := by
        simpa using hmem
      have hfirst := hname first (by rw [hcontent, String.toList_ofList]; rfl)
      rw [hmark] at hfirst
      cases hfirst
    · rw [if_neg hquote] at hmode hnext
      split at hnext
      · next hquiet =>
        cases hnext
        have hescape : ¬(c == '\\') = true := by
          simp only [isQuiet, Bool.and_eq_true, bne_iff_ne] at hquiet
          simpa using hquiet.2
        rw [if_neg hescape] at hmode
        split at hmode
        · cases hmode
        · cases hmode
          exact ⟨.outside (c.toNat :: units) hmark, List.not_mem_nil⟩
      · cases hnext
  | behind =>
    rw [Mode.next?] at hmode
    rw [Side.next?] at hnext
    right
    split at hnext
    · next hmark =>
      cases hnext
      simp only [isMark, Bool.or_eq_true, beq_iff_eq] at hmark
      rcases hmark with ((rfl | rfl) | rfl) | rfl
      all_goals
        cases hmode
        exact ⟨.outside [] (by decide), List.not_mem_nil⟩
    · cases hnext
  | between =>
    have hbegin : begin c = (tokens, after) := Option.some.inj hmode
    have hflipped := flipped_begin hnext
    have htext := begin_ne_text c name
    rw [hbegin] at hflipped htext
    exact .inr ⟨hflipped, htext⟩
  | word read =>
    have hescape : Side.inside = .escaped → '\\' ∈ read := by rintro ⟨⟩
    exact (step_word hescape (.inl rfl) hnext hmode).imp_right fun h => ⟨h.1, h.2 name⟩
  | escaped hescape =>
    exact (step_word (fun _ => hescape) (.inr rfl) hnext hmode).imp_right fun h => ⟨h.1, h.2 name⟩

theorem lacks_of_advance {progress last : Progress} (h : progress.Lacks name) (hne : name ≠ "")
    (htokens : .text name ∉ tokens) (hadvance : advance progress tokens = .ok last) :
    last.Lacks name := by
  induction tokens generalizing progress with
  | nil =>
    cases hadvance
    exact h
  | cons token rest ih =>
    obtain ⟨next, hnext, hrest⟩ := advance_cons_eq_ok hadvance
    rw [List.mem_cons, not_or] at htokens
    exact ih (h.advances hnext hne fun heq => htokens.1 heq.symm) htokens.2 hrest

theorem foreign_backslash : Foreign '\\' := by decide

/-- Behind a cut no object gets a field with a name that begins with no mark. -/
theorem lacks_of_feed {progress last : Progress} {text : List Char} {final : Side}
    (hflipped : Flipped side mode) (hlacks : progress.Lacks name)
    (hname : ∀ c ∈ name.toList.head?, isMark c = false) (hne : name ≠ "")
    (hwalk : side.walk text = some final)
    (h : feed .record (progress, mode) text = .ok (last, after)) :
    Flipped final after ∧ last.Lacks name := by
  induction text generalizing side progress mode with
  | nil =>
    cases hwalk
    cases h
    exact ⟨hflipped, hlacks⟩
  | cons c text ih =>
    rw [Side.walk_cons] at hwalk
    obtain ⟨side', hside, hwalk⟩ := Option.bind_eq_some_iff.1 hwalk
    obtain ⟨⟨progress', mode'⟩, hread, hfeed⟩ := feed_cons_eq_ok h
    obtain ⟨tokens, hmode, hadvance⟩ := readChar_eq_ok hread
    rcases hflipped.step hname hside hmode with ⟨word, rest, rfl, hescape⟩ | ⟨hnext, htokens⟩
    · exact absurd hadvance (advance_word_ne_ok hescape foreign_backslash _ _ _)
    · exact ih hnext (lacks_of_advance hlacks hne htokens hadvance) hwalk hfeed

/-- What is read behind a cut is no object with a field whose name begins with no mark. -/
theorem lacks_of_read {text : List Char} {final : Side} {json : Json}
    (hname : ∀ c ∈ name.toList.head?, isMark c = false) (hne : name ≠ "")
    (hwalk : Side.inside.walk text = some final) (h : read .record text = .ok json) :
    Lacks name json := by
  obtain ⟨progress, mode, tokens, last, hfeed, htokens, hadvance, hresult⟩ := read_eq_ok h
  have hstart : Progress.start.Lacks name := ⟨nofun, nofun⟩
  obtain ⟨-, hlacks⟩ := lacks_of_feed .between hstart hname hne hwalk hfeed
  have htext : .text name ∉ tokens := by
    cases mode <;> cases htokens <;> simp
  exact (lacks_of_advance hlacks hne htext hadvance).result json hresult

/-! ### Up to a cut -/

/-- How a text is read on the side on which it has been written. -/
inductive Straight : Side → Mode → Prop
  | outside : Straight .outside .between
  | word (read : List Char) : Straight .outside (.word read)
  | behind : Straight .behind .between
  | inside (units : List Nat) : Straight .inside (.quoted units)
  | codeUnit (units : List Nat) (digits value : Nat) : Straight .inside (.codeUnit units digits value)
  | escaped (units : List Nat) : Straight .escaped (.escape units)

theorem straight_begin (h : Side.outside.next? c = some next) : Straight next (begin c).2 := by
  by_cases hquote : c = '"'
  · subst hquote
    cases h
    exact .inside []
  rw [Side.next?, if_neg (by simpa using hquote)] at h
  split at h
  · cases h
    unfold begin
    split
    case h_11 => exact absurd rfl hquote
    all_goals first | exact .outside | exact .word _
  · cases h

theorem straight_of_word {read : List Char} (hnext : Side.outside.next? c = some next)
    (hmode : (Mode.word read).next? .record c = some (tokens, after)) : Straight next after := by
  rw [Mode.next?] at hmode
  split at hmode
  · cases hmode
    exact straight_begin hnext
  · next hends =>
    cases hmode
    have hquote : ¬(c == '"') = true := by
      rw [beq_iff_eq]
      rintro rfl
      exact hends rfl
    rw [Side.next?, if_neg hquote] at hnext
    split at hnext
    · cases hnext
      exact .word _
    · cases hnext

theorem straight_of_behind (hnext : Side.behind.next? c = some next)
    (hmode : Mode.between.next? .record c = some (tokens, after)) : Straight next after := by
  rw [Side.next?] at hnext
  split at hnext
  · next hmark =>
    cases hnext
    simp only [isMark, Bool.or_eq_true, beq_iff_eq] at hmark
    rcases hmark with ((rfl | rfl) | rfl) | rfl
    all_goals
      cases hmode
      exact .outside
  · cases hnext

theorem straight_of_quoted {units : List Nat} (hnext : Side.inside.next? c = some next)
    (hmode : (Mode.quoted units).next? .record c = some (tokens, after)) : Straight next after := by
  rw [Mode.next?] at hmode
  rw [Side.next?] at hnext
  split at hmode
  · next hquote =>
    rw [if_pos hquote] at hnext
    obtain ⟨chars, -, heq⟩ := Option.map_eq_some_iff.1 hmode
    cases heq
    cases hnext
    exact .behind
  · next hquote =>
    rw [if_neg hquote] at hnext
    split at hmode
    · next hescape =>
      rw [if_pos hescape] at hnext
      cases hmode
      cases hnext
      exact .escaped units
    · next hescape =>
      rw [if_neg hescape] at hnext
      cases hnext
      split at hmode
      · cases hmode
      · cases hmode
        exact .inside _

/-- No quote and no backslash is a digit of a code unit. -/
theorem straight_of_codeUnit {units : List Nat} {digits value : Nat}
    (hnext : Side.inside.next? c = some next)
    (hmode : (Mode.codeUnit units digits value).next? .record c = some (tokens, after)) :
    Straight next after := by
  rw [Mode.next?] at hmode
  obtain ⟨digit, hdigit, hmode⟩ := Option.map_eq_some_iff.1 hmode
  have hquote : c ≠ '"' := by
    rintro rfl
    cases hdigit
  have hescape : c ≠ '\\' := by
    rintro rfl
    cases hdigit
  rw [Side.next?_inside hquote hescape] at hnext
  cases hnext
  dsimp only at hmode
  split at hmode
  · cases hmode
    exact .inside _
  · cases hmode
    exact .codeUnit ..

theorem straight_of_escape {units : List Nat} (hnext : Side.escaped.next? c = some next)
    (hmode : (Mode.escape units).next? .record c = some (tokens, after)) : Straight next after := by
  rw [Side.next?] at hnext
  split at hnext
  · cases hnext
    rw [Mode.next?] at hmode
    split at hmode
    · cases hmode
      exact .codeUnit ..
    · obtain ⟨unit, -, heq⟩ := Option.map_eq_some_iff.1 hmode
      cases heq
      exact .inside _
  · cases hnext

theorem Straight.step (h : Straight side mode) (hnext : side.next? c = some next)
    (hmode : mode.next? .record c = some (tokens, after)) : Straight next after := by
  cases h with
  | outside =>
    have hbegin : begin c = (tokens, after) := Option.some.inj hmode
    have hstraight := straight_begin hnext
    rw [hbegin] at hstraight
    exact hstraight
  | word read => exact straight_of_word hnext hmode
  | behind => exact straight_of_behind hnext hmode
  | inside units => exact straight_of_quoted hnext hmode
  | codeUnit units digits value => exact straight_of_codeUnit hnext hmode
  | escaped units => exact straight_of_escape hnext hmode

theorem straight_of_feed {progress last : Progress} {text : List Char} {final : Side}
    (h : Straight side mode) (hwalk : side.walk text = some final)
    (hfeed : feed .record (progress, mode) text = .ok (last, after)) : Straight final after := by
  induction text generalizing side progress mode with
  | nil =>
    cases hwalk
    cases hfeed
    exact h
  | cons c text ih =>
    rw [Side.walk_cons] at hwalk
    obtain ⟨side', hside, hwalk⟩ := Option.bind_eq_some_iff.1 hwalk
    obtain ⟨⟨progress', mode'⟩, hread, hfeed⟩ := feed_cons_eq_ok hfeed
    obtain ⟨tokens, hmode, -⟩ := readChar_eq_ok hread
    exact ih (h.step hside hmode) hwalk hfeed

/-- Inside of a text no value ends. -/
theorem Straight.last? (h : Straight .inside mode) : mode.last? = none := by
  cases h <;> rfl

/-! ### Behind other text -/

/-- An object that begins with a key of one word is read only where a value may begin. -/
theorem awaits_of_feed {progress last : Progress} {word rest : List Char}
    (hword : ∀ c ∈ word, endsWord c = false) (hmem : c ∈ word) (hc : Foreign c)
    (h : feed .record (progress, mode) ('\x7b' :: '"' :: (word ++ '"' :: rest)) = .ok (last, after)) :
    mode = .between ∧ progress.expected.AwaitsValue := by
  obtain ⟨⟨opened, mode'⟩, hopen, hrest⟩ := feed_cons_eq_ok h
  obtain ⟨tokens, hmode, hadvance⟩ := readChar_eq_ok hopen
  cases mode with
  | between =>
    cases hmode
    obtain ⟨next, hnext, -⟩ := advance_cons_eq_ok hadvance
    cases hnext with
    | beginObject hawaits => exact ⟨rfl, hawaits⟩
  | word read =>
    cases hmode
    obtain ⟨next, hnext, hadvance⟩ := advance_cons_eq_ok hadvance
    obtain ⟨last, hlast, -⟩ := advance_cons_eq_ok hadvance
    -- behind a word that is a value no object begins
    cases hnext with
    | @word stack expected word value hawaits hvalue =>
      generalize hsupply : Progress.supply value stack = supplied at hlast
      cases hlast with
      | beginObject hawaits =>
        cases stack with
        | nil =>
          cases hsupply
          cases hawaits
        | cons frame stack =>
          cases frame <;> cases hsupply <;> cases hawaits
  | quoted units =>
    -- the key stands outside of texts here
    obtain ⟨⟨closed, mode''⟩, hclose, hrest⟩ := feed_cons_eq_ok hrest
    cases hmode
    obtain ⟨tokens, hmode, -⟩ := readChar_eq_ok hclose
    rw [Mode.next?, if_pos (beq_self_eq_true _)] at hmode
    obtain ⟨chars, -, heq⟩ := Option.map_eq_some_iff.1 hmode
    obtain ⟨-, rfl⟩ := Prod.mk.inj heq
    have hne : word ≠ [] := List.ne_nil_of_mem hmem
    rw [LexesBefore.word hne hword closed ('"' :: rest) ⟨'"', rest, rfl, rfl⟩] at hrest
    obtain ⟨next, hnext, -⟩ := Outcome.bind_eq_ok.1 hrest
    exact absurd hnext (advance_word_ne_ok hmem hc _ _ _)
  | escape units => cases hmode
  | codeUnit units digits value => cases hmode

/-- A character completes a token, or it is a blank between tokens, or it belongs to a token. -/
theorem Mode.next?_cases (h : mode.next? .record c = some (tokens, after)) :
    tokens ≠ [] ∨ (after = .between → mode = .between ∧ begin c = ([], .between)) := by
  cases mode with
  | between =>
    have hbegin : begin c = (tokens, after) := Option.some.inj h
    rw [hbegin]
    by_cases htokens : tokens = []
    · subst htokens
      exact .inr fun hafter => ⟨rfl, by rw [hafter]⟩
    · exact .inl htokens
  | word read =>
    rw [Mode.next?] at h
    split at h
    · cases h
      exact .inl (List.cons_ne_nil _ _)
    · cases h
      exact .inr (by rintro ⟨⟩)
  | quoted units =>
    rw [Mode.next?] at h
    split at h
    · obtain ⟨chars, -, heq⟩ := Option.map_eq_some_iff.1 h
      cases heq
      exact .inl (List.cons_ne_nil _ _)
    · split at h
      · cases h
        exact .inr (by rintro ⟨⟩)
      · split at h
        · cases h
        · cases h
          exact .inr (by rintro ⟨⟩)
  | escape units =>
    rw [Mode.next?] at h
    split at h
    · cases h
      exact .inr (by rintro ⟨⟩)
    · obtain ⟨unit, -, heq⟩ := Option.map_eq_some_iff.1 h
      cases heq
      exact .inr (by rintro ⟨⟩)
  | codeUnit units digits value =>
    rw [Mode.next?] at h
    obtain ⟨digit, -, h⟩ := Option.map_eq_some_iff.1 h
    dsimp only at h
    split at h
    · cases h
      exact .inr (by rintro ⟨⟩)
    · cases h
      exact .inr (by rintro ⟨⟩)

theorem not_begun_start : ¬Progress.start.Begun := by
  rintro (hstack | ⟨result, hresult⟩)
  · exact hstack rfl
  · cases hresult

/-- A text after which nothing has been read is blank. -/
theorem blank_of_feed {progress last : Progress} {text : List Char}
    (hprogress : progress = .start ∨ progress.Begun)
    (h : feed .record (progress, mode) text = .ok (last, after)) :
    last.Begun ∨ progress = .start ∧
      (after = .between → mode = .between ∧ ∀ c ∈ text, begin c = ([], .between)) := by
  induction text generalizing progress mode with
  | nil =>
    cases h
    exact hprogress.symm.imp_right fun hstart => ⟨hstart, fun hafter => ⟨hafter, nofun⟩⟩
  | cons c text ih =>
    obtain ⟨⟨next, mode'⟩, hread, hfeed⟩ := feed_cons_eq_ok h
    obtain ⟨tokens, hmode, hadvance⟩ := readChar_eq_ok hread
    by_cases htokens : tokens = []
    · subst htokens
      cases hadvance
      refine (ih hprogress hfeed).imp_right fun ⟨hstart, hblank⟩ => ⟨hstart, fun hafter => ?_⟩
      obtain ⟨hbetween, htext⟩ := hblank hafter
      obtain ⟨hmode, hc⟩ := (Mode.next?_cases hmode).resolve_left (absurd rfl) hbetween
      exact ⟨hmode, List.forall_mem_cons.2 ⟨hc, htext⟩⟩
    · have hbegun : next.Begun := begun_of_advance hadvance hprogress (.inl htokens)
      have hnext : next ≠ .start := by
        rintro rfl
        exact not_begun_start hbegun
      exact (ih (.inr hbegun) hfeed).imp_right fun ⟨hstart, _⟩ => absurd hstart hnext

section Opening

variable {fields : List (String × Json)} {text word rest : List Char} {json : Json}

/-- In front of an object that is read there are only blanks. -/
theorem blank_of_read (h : EveryField Rounded fields)
    (hopening : compact (.object fields) = '\x7b' :: '"' :: (word ++ '"' :: rest))
    (hword : ∀ c ∈ word, endsWord c = false) (hmem : c ∈ word) (hc : Foreign c)
    (hread : read .record (text ++ compact (.object fields)) = .ok json) :
    ∀ c ∈ text, begin c = ([], .between) := by
  obtain ⟨progress, mode, rest', last, hfeed, hrest, hlast, hresult⟩ := read_eq_ok hread
  obtain ⟨⟨before, mode'⟩, hbefore, hobject⟩ := feed_append_eq_ok hfeed
  have hfront := hobject
  rw [hopening] at hfront
  obtain ⟨rfl, hawaits⟩ := awaits_of_feed hword hmem hc hfront
  -- the object closes what it opens, so nothing has been open in front of it
  have hlexes : Lexes .record (compact (.object fields)) (tokens (.object fields)) :=
    (Lexes.mark (c := '\x7b') rfl).append (lexes_compactFields h)
  have hobject' := hlexes before []
  rw [List.append_nil, hobject] at hobject'
  obtain ⟨after, hafter, hsame⟩ := Outcome.bind_eq_ok.1 hobject'.symm
  cases hsame
  cases hrest
  cases hlast
  have hstack := complete_of_advance hafter (List.cons_ne_nil _ _) hresult
  have hlength := length_of_advance hafter
  rw [sum_shift_tokens, hstack, List.length_nil] at hlength
  have hnone : before.stack = [] := List.length_eq_zero_iff.1 (by omega)
  have hbegun : ¬before.Begun := by
    rintro (hopen | ⟨result, hnothing⟩)
    · exact hopen hnone
    · rw [hnothing] at hawaits
      cases hawaits
  exact (((blank_of_feed (.inl rfl) hbefore).resolve_left hbegun).2 rfl).2

/-- The front of an object up to a place inside of one of its texts is no value, whatever stands in front
of it. -/
theorem read_front_ne_ok (hword : ∀ c ∈ word, endsWord c = false) (hmem : c ∈ word) (hc : Foreign c)
    (hwalk : Side.outside.walk ('\x7b' :: '"' :: (word ++ '"' :: rest)) = some .inside) :
    read .record (text ++ '\x7b' :: '"' :: (word ++ '"' :: rest)) ≠ .ok json := by
  intro hread
  obtain ⟨progress, mode, rest', last, hfeed, hrest, -, -⟩ := read_eq_ok hread
  obtain ⟨⟨before, mode'⟩, -, hfront⟩ := feed_append_eq_ok hfeed
  obtain ⟨rfl, -⟩ := awaits_of_feed hword hmem hc hfront
  have hinside := straight_of_feed .outside hwalk hfront
  rw [hinside.last?] at hrest
  cases hrest

end Opening

end KotlinAudit.Json
