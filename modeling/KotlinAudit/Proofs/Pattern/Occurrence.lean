import KotlinAudit.Proofs.Pattern.Captured

/-! Where patterns fit. A plain pattern occurs in a text that holds a text of its language, and it fits at the
start of one that begins with such a text. So it does not matter what follows a character that the pattern does
not accept. A pattern with repeated parts runs over the pieces that these parts spell. -/
namespace KotlinAudit.Pattern

open Cursor (Passes)

variable {pattern instead body : Pattern} {text other front rest : List Char} {c : Char} {cursor next : Cursor}

/-! ### Plain patterns -/

theorem occursIn_iff (h : pattern.isPlain = true) : pattern.occursIn text = true ↔
    ∃ middle, pattern.language middle ∧ middle <:+: text := by
  constructor
  · intro hoccurs
    obtain ⟨front, back, hafter, hways⟩ := (isSome_searchFrom?_iff rfl).1 hoccurs
    obtain ⟨next, hnext⟩ := List.exists_mem_of_ne_nil _ hways
    obtain ⟨middle, hmiddle, hpasses⟩ := exists_passes h hnext
    have hback : back = middle ++ next.after := by rw [← hpasses.after, Cursor.after_forward hafter]
    exact ⟨middle, hmiddle, front, next.after, by rw [List.append_assoc, ← hback]; exact hafter.symm⟩
  · rintro ⟨middle, hmiddle, front, back, rfl⟩
    rw [List.append_assoc]
    exact occursIn_of_matchesWhole h ((matchesWhole_iff h).2 hmiddle)

theorem occursIn_of_infix (h : pattern.isPlain = true) (hin : text <:+: other)
    (hoccurs : pattern.occursIn text = true) : pattern.occursIn other = true := by
  obtain ⟨middle, hmiddle, hmiddleIn⟩ := (occursIn_iff h).1 hoccurs
  exact (occursIn_iff h).2 ⟨middle, hmiddle, hmiddleIn.trans hin⟩

theorem matchesStart_iff (h : body.isPlain = true) : (seq start body).matchesStart text = true ↔
    ∃ passed, body.language passed ∧ passed <+: text := by
  have hways : (seq start body).ways (.start text) = body.ways (.start text) :=
    List.flatMap_singleton _ _
  rw [matchesStart, matchStart?, firstEnd_some, List.isSome_head?, hways]
  constructor
  · intro hne
    obtain ⟨next, hnext⟩ := List.exists_mem_of_ne_nil _ hne
    obtain ⟨passed, hpassed, hpasses⟩ := exists_passes h hnext
    exact ⟨passed, hpassed, next.after, hpasses.after.symm⟩
  · rintro ⟨passed, hpassed, rest, rfl⟩
    obtain ⟨next, hnext, -⟩ := @exists_way _ h (.start (passed ++ rest)) passed rest hpassed rfl
    exact List.ne_nil_of_mem hnext

/-- Whether a pattern accepts a character nowhere. -/
def spares (c : Char) : Pattern → Bool
  | empty => true
  | char accepts => !accepts c
  | seq first second | either first second => first.spares c && second.spares c
  | repeated _ _ _ body | capture _ body => body.spares c
  | _ => false

theorem not_mem_of_language (hspares : pattern.spares c = true) (h : pattern.language text) : c ∉ text := by
  induction pattern generalizing text with
  | empty => exact (show text = [] from h) ▸ List.not_mem_nil
  | char accepts =>
    obtain ⟨d, rfl, hd⟩ := h
    rintro hmem
    obtain rfl := List.mem_singleton.1 hmem
    rw [spares, hd] at hspares
    cases hspares
  | seq first second hfirst hsecond =>
    obtain ⟨hspares, hspares'⟩ := Bool.and_eq_true_iff.1 hspares
    obtain ⟨front, back, rfl, hfront, hback⟩ := h
    rw [List.mem_append, not_or]
    exact ⟨hfirst hspares hfront, hsecond hspares' hback⟩
  | either preferred other hpreferred hother =>
    obtain ⟨hspares, hspares'⟩ := Bool.and_eq_true_iff.1 hspares
    rcases h with h | h
    · exact hpreferred hspares h
    · exact hother hspares' h
  | repeated eager least most body ih =>
    exact fun hmem => ih hspares (h.2.2 c hmem) List.mem_cons_self
  | capture group body ih => exact ih hspares h
  | _ => cases hspares

/-- What follows a character that is accepted nowhere does not matter. -/
theorem matchesStart_append_cons (h : body.isPlain = true) (hspares : body.spares c = true)
    (front rest : List Char) : (seq start body).matchesStart (front ++ c :: rest) = true ↔
      (seq start body).matchesStart front = true := by
  rw [matchesStart_iff h, matchesStart_iff h]
  constructor
  · rintro ⟨passed, hpassed, more, hmore⟩
    have hnone := not_mem_of_language hspares hpassed
    refine ⟨passed, hpassed, ?_⟩
    rcases List.append_eq_append_iff.1 hmore with ⟨gap, hgap, -⟩ | ⟨gap, hgap, hrest⟩
    · exact ⟨gap, hgap.symm⟩
    · cases gap with
      | nil => exact ⟨[], by rw [hgap, List.append_nil, List.append_nil]⟩
      | cons d gap =>
        obtain ⟨rfl, -⟩ := List.cons.inj hrest
        exact absurd (hgap ▸ List.mem_append_right front List.mem_cons_self) hnone
  · rintro ⟨passed, hpassed, hprefix⟩
    exact ⟨passed, hpassed, hprefix.trans (List.prefix_append front _)⟩

/-! ### Optional parts -/

/-- The way through an optional part is preferred to the one that leaves it out. -/
theorem ways_optional (h : body.single? = none) (cursor : Cursor) :
    (optional body).ways cursor = body.ways cursor ++ [cursor] := by
  rw [optional, ways, exactWays, List.flatMap_singleton, h]
  change ((body.ways cursor).flatMap fun next => if next.position = cursor.position then [next] else [next]) ++
    [cursor] = _
  simp only [ite_self, List.flatMap_singleton']

/-- An optional part is there or it is not. -/
theorem firstEnd_optional (h : body.single? = none) : (optional body).firstEnd = (either body empty).firstEnd := by
  funext onward cursor
  rw [optional, firstEnd_repeated, exactly, further, h]
  simp only [rounds, ite_self]
  rfl

theorem firstEnd_seq_congr {first second other another : Pattern} (hfirst : first.firstEnd = other.firstEnd)
    (hsecond : second.firstEnd = another.firstEnd) : (seq first second).firstEnd = (seq other another).firstEnd := by
  funext onward cursor
  rw [firstEnd, firstEnd, hfirst, hsecond]

theorem occursIn_congr (h : pattern.firstEnd = instead.firstEnd) (text : List Char) :
    pattern.occursIn text = instead.occursIn text := by
  have hsearch : ∀ rest cursor, pattern.searchIn rest cursor = instead.searchIn rest cursor := by
    intro rest
    induction rest with
    | nil => intro cursor; rw [searchIn, searchIn, h]
    | cons c rest ih => intro cursor; simp only [searchIn, h, ih]
  rw [occursIn, search?, searchFrom?, hsearch]
  rfl

/-! ### Forward patterns -/

/-- The texts that a forward pattern may run over, whatever it asks of the places on the way. -/
def spells : Pattern → List Char → Prop
  | empty, text | place _, text => text = []
  | char accepts, text => ∃ c, text = [c] ∧ accepts c = true
  | seq first second, text => ∃ front back, text = front ++ back ∧ first.spells front ∧ second.spells back
  | either preferred other, text => preferred.spells text ∨ other.spells text
  | repeated _ least most body, text => ∃ pieces : List (List Char), text = pieces.flatten ∧
    least ≤ pieces.length ∧ (∀ count ∈ most, pieces.length ≤ max least count) ∧
    ∀ piece ∈ pieces, body.spells piece
  | capture _ body, text => body.spells text
  | _, _ => False

/-- What a plain pattern matches it runs over. -/
theorem spells_of_language (h : pattern.isPlain = true) (htext : pattern.language text) :
    pattern.spells text := by
  induction pattern generalizing text with
  | empty | char accepts => exact htext
  | seq first second hfirst hsecond =>
    obtain ⟨hplain, hplain'⟩ := Bool.and_eq_true_iff.1 h
    obtain ⟨front, back, rfl, hfront, hback⟩ := htext
    exact ⟨front, back, rfl, hfirst hplain hfront, hsecond hplain' hback⟩
  | either preferred other hpreferred hother =>
    obtain ⟨hplain, hplain'⟩ := Bool.and_eq_true_iff.1 h
    exact htext.imp (hpreferred hplain) (hother hplain')
  | repeated eager least most body ih =>
    obtain ⟨accepts, hsingle⟩ := Option.isSome_iff_exists.1 h
    obtain rfl := eq_char_of_single? hsingle
    obtain ⟨hleast, hmost, hall⟩ := htext
    refine ⟨text.map fun c => [c], ?_, by rwa [List.length_map], by rwa [List.length_map], ?_⟩
    · rw [← List.flatMap_def, List.flatMap_singleton']
    · intro piece hpiece
      obtain ⟨c, hc, rfl⟩ := List.mem_map.1 hpiece
      exact hall c hc
  | capture group body ih => exact ih h htext
  | _ => cases h

theorem flatten_of_singletons {accepts : Char → Bool} {pieces : List (List Char)}
    (h : ∀ piece ∈ pieces, ∃ c, piece = [c] ∧ accepts c = true) :
    pieces.flatten.length = pieces.length ∧ ∀ c ∈ pieces.flatten, accepts c = true := by
  induction pieces with
  | nil => exact ⟨rfl, List.forall_mem_nil _⟩
  | cons piece pieces ih =>
    obtain ⟨⟨c, rfl, hc⟩, hpieces⟩ := List.forall_mem_cons.1 h
    obtain ⟨hlength, hall⟩ := ih hpieces
    rw [List.flatten_cons, List.length_append, hlength, List.length_cons]
    exact ⟨Nat.add_comm _ _, List.forall_mem_cons.2 ⟨hc, hall⟩⟩

theorem language_of_spells (h : pattern.isPlain = true) (htext : pattern.spells text) : pattern.language text := by
  induction pattern generalizing text with
  | empty | char accepts => exact htext
  | seq first second hfirst hsecond =>
    obtain ⟨hplain, hplain'⟩ := Bool.and_eq_true_iff.1 h
    obtain ⟨front, back, rfl, hfront, hback⟩ := htext
    exact ⟨front, back, rfl, hfirst hplain hfront, hsecond hplain' hback⟩
  | either preferred other hpreferred hother =>
    obtain ⟨hplain, hplain'⟩ := Bool.and_eq_true_iff.1 h
    exact htext.imp (hpreferred hplain) (hother hplain')
  | repeated eager least most body ih =>
    obtain ⟨accepts, hsingle⟩ := Option.isSome_iff_exists.1 h
    obtain rfl := eq_char_of_single? hsingle
    obtain ⟨pieces, rfl, hleast, hmost, hpieces⟩ := htext
    obtain ⟨hlength, hall⟩ := flatten_of_singletons hpieces
    rw [← hlength] at hleast hmost
    exact ⟨hleast, hmost, fun c hc => ⟨c, rfl, hall c hc⟩⟩
  | capture group body ih => exact ih h htext
  | _ => cases h

/-- A plain pattern spells the texts of its language. -/
theorem spells_iff_language (h : pattern.isPlain = true) : pattern.spells text ↔ pattern.language text :=
  ⟨language_of_spells h, spells_of_language h⟩

theorem spells_many_iff {accepts : Char → Bool} :
    (many (char accepts)).spells text ↔ ∀ c ∈ text, accepts c = true := by
  refine (spells_iff_language rfl).trans ⟨fun h c hc => language_char_iff.1 (h.2.2 c hc), fun h => ?_⟩
  exact ⟨Nat.zero_le _, nofun, fun c hc => language_char_iff.2 (h c hc)⟩

theorem spells_oneOrMore_iff {accepts : Char → Bool} :
    (oneOrMore (char accepts)).spells text ↔ text ≠ [] ∧ ∀ c ∈ text, accepts c = true :=
  (spells_iff_language rfl).trans language_oneOrMore_iff

theorem spells_text_iff {expected : String} : (Pattern.text expected).spells text ↔ text = expected.toList :=
  (spells_iff_language (isPlain_chars _)).trans language_chars_iff

theorem spells_texts_iff {words : List String} (hwords : words ≠ []) :
    (texts words).spells text ↔ ∃ word ∈ words, text = word.toList :=
  (spells_iff_language (isPlain_texts words)).trans (language_texts_iff hwords)

theorem spells_many_nil : (many body).spells [] :=
  ⟨[], rfl, Nat.le_refl 0, nofun, List.forall_mem_nil _⟩

theorem spells_many_append (h : (many body).spells text) (hother : (many body).spells other) :
    (many body).spells (text ++ other) := by
  obtain ⟨pieces, rfl, -, -, hpieces⟩ := h
  obtain ⟨more, rfl, -, -, hmore⟩ := hother
  exact ⟨pieces ++ more, List.flatten_append.symm, Nat.zero_le _, nofun, List.forall_mem_append.2 ⟨hpieces, hmore⟩⟩

theorem spells_many_of_spells (h : body.spells text) : (many body).spells text :=
  ⟨[text], List.flatten_singleton.symm, Nat.zero_le _, nofun, List.forall_mem_singleton.2 h⟩

theorem spells_optional_iff : (optional body).spells text ↔ text = [] ∨ body.spells text := by
  constructor
  · rintro ⟨pieces, rfl, -, hmost, hpieces⟩
    match pieces with
    | [] => exact .inl rfl
    | [piece] =>
      rw [List.flatten_singleton]
      exact .inr (hpieces piece List.mem_cons_self)
    | _ :: _ :: rest => exact absurd (hmost 1 rfl) (by simp)
  · rintro (rfl | h)
    · exact ⟨[], rfl, Nat.le_refl 0, fun _ _ => Nat.zero_le _, List.forall_mem_nil _⟩
    · refine ⟨[text], List.flatten_singleton.symm, Nat.zero_le _, ?_, List.forall_mem_singleton.2 h⟩
      rintro _ ⟨⟩
      exact Nat.le_refl 1

/-- Every way through a forward pattern runs over a text that it spells. -/
theorem exists_spelled (h : pattern.isForward = true) (hnext : next ∈ pattern.ways cursor) :
    ∃ passed, pattern.spells passed ∧ cursor.Passes passed next := by
  induction pattern generalizing cursor next with
  | empty =>
    rw [List.mem_singleton.1 hnext]
    exact ⟨[], rfl, .refl cursor⟩
  | char accepts =>
    obtain ⟨c, hc, hpasses, -⟩ := passes_of_mem_ways_char hnext
    exact ⟨[c], ⟨c, rfl, hc⟩, hpasses⟩
  | seq first second hfirst hsecond =>
    obtain ⟨hforward, hforward'⟩ := Bool.and_eq_true_iff.1 h
    obtain ⟨middle, hmiddle, hnext⟩ := List.mem_flatMap.1 hnext
    obtain ⟨front, hfront, hpasses⟩ := hfirst hforward hmiddle
    obtain ⟨back, hback, hlater⟩ := hsecond hforward' hnext
    exact ⟨front ++ back, ⟨front, back, rfl, hfront, hback⟩, hpasses.trans hlater⟩
  | either preferred other hpreferred hother =>
    obtain ⟨hforward, hforward'⟩ := Bool.and_eq_true_iff.1 h
    rcases List.mem_append.1 hnext with hnext | hnext
    · obtain ⟨passed, hpassed, hpasses⟩ := hpreferred hforward hnext
      exact ⟨passed, .inl hpassed, hpasses⟩
    · obtain ⟨passed, hpassed, hpasses⟩ := hother hforward' hnext
      exact ⟨passed, .inr hpassed, hpasses⟩
  | repeated eager least most body ih =>
    have hbody : ∀ cursor, ∀ next ∈ body.ways cursor, ∃ piece, body.spells piece ∧ cursor.Passes piece next :=
      fun _ _ => ih h
    cases hsingle : body.single? with
    | some accepts =>
      obtain rfl := eq_char_of_single? hsingle
      obtain ⟨passed, hpassed, hpasses⟩ := @exists_passes (.repeated eager least most (char accepts)) rfl _ _ hnext
      exact ⟨passed, spells_of_language rfl hpassed, hpasses⟩
    | none =>
      obtain ⟨middle, hmiddle, hnext⟩ := List.mem_flatMap.1 hnext
      rw [hsingle] at hnext
      obtain ⟨first, hlength, hfirst, hpasses⟩ := exists_pieces_of_mem_exactWays hbody hmiddle
      obtain ⟨more, hbudget, hmore, hlater⟩ := exists_pieces_of_mem_roundWays hbody hnext
      refine ⟨first.flatten ++ more.flatten, ⟨first ++ more, List.flatten_append.symm, ?_, ?_,
        List.forall_mem_append.2 ⟨hfirst, hmore⟩⟩, hpasses.trans hlater⟩
      · rw [List.length_append, hlength]
        exact Nat.le_add_right _ _
      · rintro count rfl
        rw [List.length_append, hlength]
        dsimp only at hbudget
        omega
  | capture group body ih =>
    obtain ⟨-, hforward⟩ := Bool.and_eq_true_iff.1 h
    obtain ⟨middle, hmiddle, -, hcapture⟩ := exists_of_mem_ways_capture hnext
    obtain ⟨passed, hpassed, hpasses⟩ := ih hforward hmiddle
    exact ⟨passed, hpassed, hcapture passed hpasses⟩
  | place holds =>
    rw [ways] at hnext
    split at hnext
    · rw [List.mem_singleton.1 hnext]
      exact ⟨[], rfl, .refl cursor⟩
    · exact absurd hnext List.not_mem_nil
  | _ => cases h

/-- A match at the start of a text runs over a beginning of it. -/
theorem exists_spelled_of_matchesStart (h : pattern.isForward = true)
    (hmatches : pattern.matchesStart text = true) : ∃ passed rest, text = passed ++ rest ∧
      pattern.spells passed := by
  rw [matchesStart, matchStart?, firstEnd_some, List.isSome_head?] at hmatches
  obtain ⟨next, hnext⟩ := List.exists_mem_of_ne_nil _ hmatches
  obtain ⟨passed, hpassed, hpasses⟩ := exists_spelled h hnext
  exact ⟨passed, next.after, hpasses.after, hpassed⟩

/-! ### Free patterns -/

/-- Whether a pattern asks nothing of the places that it passes and of what has been captured. -/
def isFree : Pattern → Bool
  | empty | char _ => true
  | seq first second | either first second => first.isFree && second.isFree
  | repeated _ _ _ body | capture _ body => body.isFree
  | _ => false

theorem length_le_length_flatten {pieces : List (List Char)} (h : [] ∉ pieces) :
    pieces.length ≤ pieces.flatten.length := by
  induction pieces with
  | nil => exact Nat.le_refl 0
  | cons piece pieces ih =>
    rw [List.mem_cons, not_or] at h
    obtain ⟨hpiece, hpieces⟩ := h
    have hpositive := List.length_pos_iff.2 (Ne.symm hpiece)
    have hshorter := ih hpieces
    rw [List.flatten_cons, List.length_append, List.length_cons]
    omega

/-- There is a way through a free pattern over every text that it spells. -/
theorem exists_way_of_spells (h : pattern.isFree = true) (htext : pattern.spells text)
    (hafter : cursor.after = text ++ rest) : ∃ next ∈ pattern.ways cursor, cursor.Passes text next := by
  induction pattern generalizing cursor text rest with
  | empty | char accepts => exact exists_way rfl htext hafter
  | seq first second hfirst hsecond =>
    obtain ⟨hfree, hfree'⟩ := Bool.and_eq_true_iff.1 h
    obtain ⟨front, back, rfl, hfront, hback⟩ := htext
    rw [List.append_assoc] at hafter
    obtain ⟨middle, hmiddle, hpasses⟩ := hfirst hfree hfront hafter
    obtain ⟨next, hnext, hlater⟩ := hsecond hfree' hback
      (List.append_cancel_left (hpasses.after.symm.trans hafter))
    exact ⟨next, List.mem_flatMap.2 ⟨middle, hmiddle, hnext⟩, hpasses.trans hlater⟩
  | either preferred other hpreferred hother =>
    obtain ⟨hfree, hfree'⟩ := Bool.and_eq_true_iff.1 h
    rcases htext with htext | htext
    · obtain ⟨next, hnext, hpasses⟩ := hpreferred hfree htext hafter
      exact ⟨next, List.mem_append_left _ hnext, hpasses⟩
    · obtain ⟨next, hnext, hpasses⟩ := hother hfree' htext hafter
      exact ⟨next, List.mem_append_right _ hnext, hpasses⟩
  | repeated eager least most body ih =>
    obtain ⟨pieces, rfl, hleast, hmost, hpieces⟩ := htext
    cases hsingle : body.single? with
    | some accepts =>
      obtain rfl := eq_char_of_single? hsingle
      obtain ⟨hlength, hall⟩ := flatten_of_singletons hpieces
      refine exists_way rfl ⟨by rwa [hlength], fun count hcount => ?_, fun c hc => ⟨c, rfl, hall c hc⟩⟩ hafter
      rw [hlength]
      exact hmost count hcount
    | none =>
      -- Of the rounds that need not be, those that read nothing are left out.
      have hall : ∀ piece ∈ pieces.take least ++ pieces.drop least, body.spells piece := by
        rwa [List.take_append_drop]
      obtain ⟨hfirst, hlater⟩ := List.forall_mem_append.1 hall
      have hsplit : pieces.flatten = (pieces.take least).flatten ++ (pieces.drop least).flatten := by
        rw [← List.flatten_append, List.take_append_drop]
      rw [hsplit] at hafter ⊢
      rw [List.append_assoc] at hafter
      obtain ⟨middle, hmiddle, hpasses⟩ := exists_exactWay (fun _ _ _ => ih h) hfirst hafter
      have hmiddleAfter : middle.after = (pieces.drop least).flatten ++ rest :=
        List.append_cancel_left (hpasses.after.symm.trans hafter)
      have hread : ((pieces.drop least).filter fun piece => !piece.isEmpty).flatten = (pieces.drop least).flatten :=
        List.flatten_filter_not_isEmpty
      have hnonempty : ∀ piece ∈ (pieces.drop least).filter fun piece => !piece.isEmpty,
          piece ≠ [] ∧ body.spells piece := by
        intro piece hpiece
        obtain ⟨hpiece, hne⟩ := List.mem_filter.1 hpiece
        refine ⟨fun hempty => ?_, hlater piece hpiece⟩
        rw [hempty] at hne
        cases hne
      have hshorter := List.length_filter_le (fun piece : List Char => !piece.isEmpty) (pieces.drop least)
      have hbudget := length_le_length_flatten fun hempty => (hnonempty [] hempty).1 rfl
      rw [List.length_take, Nat.min_eq_left hleast] at hmiddle
      rw [← hread] at hmiddleAfter ⊢
      have hrounds : ((pieces.drop least).filter fun piece => !piece.isEmpty).length ≤
          most.elim (middle.after.length + 1) (· - least) := by
        cases most with
        | some count =>
          have hmost := hmost count rfl
          rw [List.length_drop] at hshorter
          rw [Option.elim_some]
          omega
        | none =>
          rw [Option.elim_none, hmiddleAfter, List.length_append]
          omega
      obtain ⟨next, hnext, hlater⟩ := exists_roundWay (fun _ _ _ => ih h) hnonempty hmiddleAfter hrounds eager
      refine ⟨next, List.mem_flatMap.2 ⟨middle, hmiddle, ?_⟩, hpasses.trans hlater⟩
      rw [hsingle]
      cases most with
      | some count => exact hnext
      | none => exact hnext
  | capture group body ih =>
    obtain ⟨middle, hmiddle, hpasses⟩ := ih h htext hafter
    exact ⟨_, List.mem_map_of_mem hmiddle, ⟨hpasses.before, hpasses.after, hpasses.position⟩⟩
  | _ => cases h

/-- A free pattern fits at the start of a text that begins with what it spells. -/
theorem matchesStart_iff_spells (hforward : body.isForward = true) (hfree : body.isFree = true) :
    (seq start body).matchesStart text = true ↔ ∃ passed, body.spells passed ∧ passed <+: text := by
  constructor
  · intro h
    have hforward : (seq start body).isForward = true := Bool.and_eq_true_iff.2 ⟨rfl, hforward⟩
    obtain ⟨_, rest, rfl, _, passed, rfl, rfl, hpassed⟩ := exists_spelled_of_matchesStart hforward h
    exact ⟨passed, hpassed, rest, rfl⟩
  · rintro ⟨passed, hpassed, rest, rfl⟩
    obtain ⟨next, hnext, -⟩ := @exists_way_of_spells body passed rest (.start (passed ++ rest)) hfree hpassed rfl
    rw [matchesStart, matchStart?, firstEnd_some, List.isSome_head?]
    exact List.ne_nil_of_mem (List.mem_flatMap.2 ⟨_, List.mem_singleton_self _, hnext⟩)

theorem ways_seq (first second : Pattern) :
    (seq first second).ways = fun cursor => (first.ways cursor).flatMap second.ways := rfl

theorem ways_seq_assoc (first second third : Pattern) (cursor : Cursor) :
    (seq first (seq second third)).ways cursor = (seq (seq first second) third).ways cursor := by
  simp only [ways_seq, List.flatMap_assoc]

theorem matchesStart_congr (h : ∀ cursor, pattern.ways cursor = instead.ways cursor) (text : List Char) :
    pattern.matchesStart text = instead.matchesStart text := by
  rw [matchesStart, matchesStart, matchStart?, matchStart?, firstEnd_some, firstEnd_some, h]

/-- A free pattern fits from the start of a text to its end if it spells the text. -/
theorem matchesStart_finish_iff (hforward : body.isForward = true) (hfree : body.isFree = true)
    (hfeed : '\n' ∉ text) : (seq start (seq body finish)).matchesStart text = true ↔ body.spells text := by
  rw [matchesStart, matchStart?, firstEnd_some, List.isSome_head?]
  constructor
  · intro h
    obtain ⟨next, hnext⟩ := List.exists_mem_of_ne_nil _ h
    obtain ⟨first, hfirst, hnext⟩ := List.mem_flatMap.1 hnext
    obtain rfl : first = .start text := List.mem_singleton.1 hfirst
    obtain ⟨last, hlast, hnext⟩ := List.mem_flatMap.1 hnext
    obtain ⟨passed, hpassed, hpasses⟩ := exists_spelled hforward hlast
    have hafter : text = passed ++ last.after := hpasses.after
    have hend : last.after = [] := by
      rw [finish, ways] at hnext
      split at hnext
      · next hatEnd =>
        rcases Bool.or_eq_true_iff.1 hatEnd with hatEnd | hatEnd
        · exact beq_iff_eq.1 hatEnd
        · rw [beq_iff_eq.1 hatEnd] at hafter
          exact absurd (hafter ▸ List.mem_append_right passed List.mem_cons_self) hfeed
      · exact absurd hnext List.not_mem_nil
    rwa [hafter, hend, List.append_nil]
  · intro h
    obtain ⟨last, hlast, hpasses⟩ :=
      @exists_way_of_spells body text [] (.start text) hfree h (List.append_nil text).symm
    have hend : last.after = [] := by
      have hafter : text ++ [] = text ++ last.after := (List.append_nil text).trans hpasses.after
      exact (List.append_cancel_left hafter).symm
    have hnext : last ∈ finish.ways last := by
      rw [finish, ways, if_pos (by rw [Cursor.atEnd, hend]; rfl)]
      exact List.mem_singleton_self last
    exact List.ne_nil_of_mem (List.mem_flatMap.2 ⟨_, List.mem_singleton_self _,
      List.mem_flatMap.2 ⟨last, hlast, hnext⟩⟩)

end KotlinAudit.Pattern
