import KotlinAudit.Proofs.Pattern.Ways

/-! Searching and replacing. A search goes on over the places where no way through the pattern starts. The
next search starts where a match has ended, and what lies between the matches is kept. So the characters of a
rewritten text come from the text itself or from what takes the place of a match. When the text that follows a
place decides what a pattern matches there, and this is at most one beginning of it, then the rewritten text can
be told from left to right: a character at which no match starts is kept, and a match is replaced, whatever
stands in front of them. -/
namespace KotlinAudit

namespace Cursor

/-- A place knows how many characters are before it. -/
def Placed (cursor : Cursor) : Prop := cursor.position = cursor.before.length

/-- A place with nothing captured on the way there. -/
def fresh (cursor : Cursor) : Cursor := ⟨cursor.before, cursor.after, cursor.position, []⟩

namespace Passes

variable {cursor middle next : Cursor} {passed more : List Char}

theorem placed (h : cursor.Passes passed next) (hplaced : cursor.Placed) : next.Placed := by
  rw [Placed, h.position, h.before, List.length_append, List.length_reverse, hplaced, Nat.add_comm]

/-- What has been passed between two places can be read from any later one. -/
theorem textOf_eq (h : cursor.Passes passed middle) (hmore : middle.Passes more next)
    (hplaced : cursor.Placed) : next.textOf ⟨cursor.position, middle.position⟩ = passed := by
  have hbefore : next.before.reverse = cursor.before.reverse ++ (passed ++ more) := by
    rw [hmore.before, h.before, List.reverse_append, List.reverse_append, List.reverse_reverse,
      List.reverse_reverse, List.append_assoc]
  have hposition : cursor.position = cursor.before.reverse.length := by
    rw [List.length_reverse, hplaced]
  rw [textOf, hbefore, h.position, Nat.add_sub_cancel_left, hposition, List.append_assoc,
    List.drop_left, List.append_assoc, List.take_left]

theorem group_eq (h : cursor.Passes passed middle) (hmore : middle.Passes more next)
    (hplaced : cursor.Placed) {group : Nat}
    (hlookup : next.groups.lookup group = some ⟨cursor.position, middle.position⟩) :
    next.group group = passed := by
  rw [Cursor.group, group?, hlookup, Option.map_some, Option.getD_some, h.textOf_eq hmore hplaced]

end Passes

/-- The text around a place. -/
def whole (cursor : Cursor) : List Char := cursor.before.reverse ++ cursor.after

theorem Passes.whole_eq {cursor next : Cursor} {passed : List Char} (h : cursor.Passes passed next) :
    next.whole = cursor.whole := by
  rw [whole, whole, h.before, h.after, List.reverse_append, List.reverse_reverse, List.append_assoc]

theorem mem_whole_of_since {cursor earlier : Cursor} {c : Char} (h : c ∈ cursor.since earlier) :
    c ∈ cursor.whole :=
  List.mem_append_left _ (List.mem_reverse.2 (List.mem_of_mem_take (List.mem_reverse.1 h)))

theorem whole_of_advance? {cursor next : Cursor} (h : cursor.advance? = some next) :
    next.whole = cursor.whole := by
  obtain ⟨before, after, position, groups⟩ := cursor
  cases after with
  | nil => cases h
  | cons c rest =>
    cases h
    simp only [whole, List.reverse_cons, List.append_assoc, List.singleton_append]

end Cursor

namespace Pattern

open Cursor (Passes)

variable {pattern : Pattern} {cursor finish : Cursor}

/-! ### Searching -/

/-- No way starts in a text that follows. -/
def Idle (pattern : Pattern) (cursor : Cursor) (front : List Char) : Prop :=
  ∀ passed others, front = passed ++ others → others ≠ [] → pattern.ways (cursor.forward passed) = []

theorem Idle.append {front more : List Char} (h : pattern.Idle cursor front)
    (hmore : pattern.Idle (cursor.forward front) more) : pattern.Idle cursor (front ++ more) := by
  intro passed others heq hothers
  rcases List.append_eq_append_iff.1 heq with ⟨rest, rfl, hrest⟩ | ⟨rest, rfl, hrest⟩
  · rw [← Cursor.forward_forward]
    exact hmore rest others hrest hothers
  · cases rest with
    | nil =>
      rw [List.append_nil] at hmore
      exact hmore [] others hrest.symm hothers
    | cons c rest => exact h passed (c :: rest) rfl (List.cons_ne_nil c rest)

theorem Idle.tail {c : Char} {front : List Char} (h : pattern.Idle cursor (c :: front)) :
    pattern.Idle (cursor.forward [c]) front := by
  intro passed others hfront hothers
  rw [Cursor.forward_forward]
  exact h (c :: passed) others (congrArg (c :: ·) hfront) hothers

theorem searchFrom?_of_way (h : (pattern.ways cursor).head? = some finish) :
    pattern.searchFrom? cursor = some ⟨cursor, finish⟩ := by
  rw [← firstEnd_some] at h
  unfold searchFrom?
  cases cursor.after with
  | nil => rw [searchIn, h, Option.map_some]
  | cons c rest => rw [searchIn, h]

/-- Where no way starts, a search goes on at the next place. -/
theorem searchFrom?_cons {c : Char} {rest : List Char} (hgroups : cursor.groups = [])
    (hafter : cursor.after = c :: rest) (hidle : pattern.ways cursor = []) :
    pattern.searchFrom? cursor = pattern.searchFrom? (cursor.forward [c]) := by
  have hnone : pattern.firstEnd some cursor = none := by rw [firstEnd_some, hidle, List.head?_nil]
  have hnext : (⟨c :: cursor.before, rest, cursor.position + 1, []⟩ : Cursor) = cursor.forward [c] := by
    rw [Cursor.forward_one, hafter, hgroups]
    rfl
  rw [searchFrom?, hafter, searchIn, hnone, hnext, searchFrom?,
    @Cursor.after_forward cursor [c] rest hafter]

theorem searchFrom?_forward {front rest : List Char} (hgroups : cursor.groups = [])
    (hafter : cursor.after = front ++ rest) (hidle : pattern.Idle cursor front) :
    pattern.searchFrom? cursor = pattern.searchFrom? (cursor.forward front) := by
  induction front generalizing cursor with
  | nil => rfl
  | cons c front ih =>
    have hrest : (cursor.forward [c]).after = front ++ rest := @Cursor.after_forward cursor [c] _ hafter
    rw [searchFrom?_cons hgroups hafter (hidle [] _ rfl (List.cons_ne_nil c front)),
      @ih (cursor.forward [c]) hgroups hrest hidle.tail, Cursor.forward_forward, List.singleton_append]

/-- A search finds something exactly if a way starts somewhere. -/
theorem isSome_searchFrom?_iff (hgroups : cursor.groups = []) :
    (pattern.searchFrom? cursor).isSome = true ↔ ∃ passed rest, cursor.after = passed ++ rest ∧
      pattern.ways (cursor.forward passed) ≠ [] := by
  induction hafter : cursor.after generalizing cursor with
  | nil =>
    rw [searchFrom?, hafter, searchIn, Option.isSome_map, firstEnd_some, List.isSome_head?]
    constructor
    · intro h
      exact ⟨[], [], rfl, h⟩
    · rintro ⟨passed, rest, heq, h⟩
      rwa [(List.append_eq_nil_iff.1 heq.symm).1] at h
  | cons c after ih =>
    by_cases hidle : pattern.ways cursor = []
    · rw [searchFrom?_cons hgroups hafter hidle,
        @ih (cursor.forward [c]) hgroups (@Cursor.after_forward cursor [c] after hafter)]
      constructor
      · rintro ⟨passed, rest, heq, h⟩
        rw [Cursor.forward_forward] at h
        exact ⟨c :: passed, rest, congrArg (c :: ·) heq, h⟩
      · rintro ⟨passed, rest, heq, h⟩
        cases passed with
        | nil => exact absurd hidle h
        | cons d passed =>
          obtain ⟨rfl, rfl⟩ := List.cons.inj heq
          refine ⟨passed, rest, rfl, ?_⟩
          rwa [Cursor.forward_forward]
    · obtain ⟨finish, hfinish⟩ := Option.isSome_iff_exists.1 (List.isSome_head?.2 hidle)
      rw [searchFrom?_of_way hfinish]
      exact iff_of_true rfl ⟨[], c :: after, rfl, hidle⟩

/-- The whole of a text is matched by a plain pattern exactly if it belongs to the language. -/
theorem matchesWhole_iff (h : pattern.isPlain = true) {text : List Char} :
    pattern.matchesWhole text = true ↔ pattern.language text := by
  rw [matchesWhole, matchWhole?, tries_firstEnd, List.findSome?_isSome_iff]
  constructor
  · rintro ⟨next, hnext, hend⟩
    obtain ⟨passed, hpassed, hpasses⟩ := exists_passes h hnext
    have hafter : text = passed ++ next.after := hpasses.after
    split at hend
    · next hempty =>
      rwa [hafter, List.isEmpty_iff.1 hempty, List.append_nil]
    · cases hend
  · intro htext
    obtain ⟨next, hnext, hpasses⟩ := @exists_way _ h (.start text) text [] htext (List.append_nil text).symm
    refine ⟨next, hnext, ?_⟩
    have hafter : text ++ [] = text ++ next.after := (List.append_nil text).trans hpasses.after
    rw [← List.append_cancel_left hafter]
    rfl

/-- A plain pattern occurs in a text that holds what it matches. -/
theorem occursIn_of_matchesWhole (h : pattern.isPlain = true) {front middle back : List Char}
    (hmiddle : pattern.matchesWhole middle = true) :
    pattern.occursIn (front ++ (middle ++ back)) = true := by
  obtain ⟨next, hnext, -⟩ := exists_way h ((matchesWhole_iff h).1 hmiddle)
    (@Cursor.after_forward (.start (front ++ (middle ++ back))) front _ rfl)
  exact (isSome_searchFrom?_iff rfl).2 ⟨front, middle ++ back, rfl, List.ne_nil_of_mem hnext⟩

/-! ### Replacing -/

/-- The text from a place on, with the matches behind it replaced. -/
def rewrite (replacement : Match → List Char) : Cursor → List Match → List Char
  | last, [] => last.after
  | last, found :: rest =>
    found.start.since last ++ replacement found ++ rewrite replacement found.finish rest

variable {replacement : Match → List Char}

theorem rewrite_fresh (found : List Match) :
    rewrite replacement cursor.fresh found = rewrite replacement cursor found := by
  cases found <;> rfl

theorem foldl_eq_rewrite (replacement : Match → List Char) (found : List Match) (written : List Char)
    (last : Cursor) :
    (found.foldl (fun (written, last) found =>
      (written ++ found.start.since last ++ replacement found, found.finish)) (written, last)).1 ++
    (found.foldl (fun (written, last) found =>
      (written ++ found.start.since last ++ replacement found, found.finish)) (written, last)).2.after =
    written ++ rewrite replacement last found := by
  induction found generalizing written last with
  | nil => rfl
  | cons first rest ih =>
    rw [List.foldl_cons, ih, rewrite, List.append_assoc, List.append_assoc, List.append_assoc]

theorem replaceAll_eq_rewrite (pattern : Pattern) (replacement : Match → List Char) (text : List Char) :
    pattern.replaceAll replacement text = rewrite replacement (.start text) (pattern.findAll text) :=
  foldl_eq_rewrite replacement (pattern.findAll text) [] (.start text)

/-- The text from a place on, with what the pattern matches there replaced. -/
def rewriteFrom (pattern : Pattern) (replacement : Match → List Char) (budget : Nat) (cursor : Cursor) :
    List Char := rewrite replacement cursor (pattern.allFrom budget cursor)

theorem allFrom_idle (hgroups : cursor.groups = []) (budget : Nat)
    (hidle : pattern.Idle cursor cursor.after) (hend : pattern.ways (cursor.forward cursor.after) = []) :
    pattern.allFrom budget cursor = [] := by
  have hnone : pattern.searchFrom? cursor = none := by
    rw [← Option.isNone_iff_eq_none, ← Option.isSome_eq_false_iff, Bool.eq_false_iff, ne_eq,
      isSome_searchFrom?_iff hgroups]
    rintro ⟨passed, rest, hafter, h⟩
    cases rest with
    | nil =>
      rw [List.append_nil] at hafter
      exact h (hafter ▸ hend)
    | cons c rest => exact h (hidle passed (c :: rest) hafter (List.cons_ne_nil c rest))
  cases budget with
  | zero => rfl
  | succ budget => rw [allFrom, hnone]

/-- The first match comes first, and the others are found behind it. -/
theorem allFrom_match {front middle rest : List Char} (hgroups : cursor.groups = [])
    (hafter : cursor.after = front ++ rest) (hidle : pattern.Idle cursor front)
    (hway : (pattern.ways (cursor.forward front)).head? = some finish)
    (hpasses : (cursor.forward front).Passes middle finish) (hmiddle : middle ≠ []) (budget : Nat) :
    pattern.allFrom (budget + 1) cursor =
      ⟨cursor.forward front, finish⟩ :: pattern.allFrom budget finish.fresh := by
  have hfound : pattern.searchFrom? cursor = some ⟨cursor.forward front, finish⟩ := by
    rw [searchFrom?_forward hgroups hafter hidle, searchFrom?_of_way hway]
  have hmoved : finish.position ≠ (cursor.forward front).position := by
    have hlength := List.length_pos_iff.2 hmiddle
    rw [hpasses.position]
    omega
  rw [allFrom, hfound]
  dsimp only
  rw [if_neg hmoved]
  rfl

theorem length_allFrom_le (pattern : Pattern) (budget : Nat) (cursor : Cursor) :
    (pattern.allFrom budget cursor).length ≤ budget := by
  induction budget generalizing cursor with
  | zero => exact Nat.le_refl 0
  | succ budget ih =>
    rw [allFrom]
    split
    · exact Nat.zero_le _
    dsimp only
    split
    · split
      · exact Nat.succ_le_succ (Nat.zero_le budget)
      · exact Nat.succ_le_succ (ih _)
    · exact Nat.succ_le_succ (ih _)

/-- There is at most one match at each place. -/
theorem length_findAll_le (pattern : Pattern) (text : List Char) :
    (pattern.findAll text).length ≤ text.length + 1 := length_allFrom_le pattern _ _

theorem rewriteFrom_idle (hgroups : cursor.groups = []) (budget : Nat)
    (hidle : pattern.Idle cursor cursor.after) (hend : pattern.ways (cursor.forward cursor.after) = []) :
    pattern.rewriteFrom replacement budget cursor = cursor.after := by
  rw [rewriteFrom, allFrom_idle hgroups budget hidle hend, rewrite]

/-- Rewriting keeps what is passed before the first match, and goes on behind it. -/
theorem rewriteFrom_match {front middle rest : List Char} (hgroups : cursor.groups = [])
    (hafter : cursor.after = front ++ rest) (hidle : pattern.Idle cursor front)
    (hway : (pattern.ways (cursor.forward front)).head? = some finish)
    (hpasses : (cursor.forward front).Passes middle finish) (hmiddle : middle ≠ []) (budget : Nat) :
    pattern.rewriteFrom replacement (budget + 1) cursor = front ++
      replacement ⟨cursor.forward front, finish⟩ ++
        pattern.rewriteFrom replacement budget finish.fresh := by
  rw [rewriteFrom, allFrom_match hgroups hafter hidle hway hpasses hmiddle, rewrite,
    (Passes.forward hafter).since_eq, rewriteFrom, rewrite_fresh]

/-! ### Splitting -/

/-- The pieces of the text from a place on, between the matches behind it. -/
def pieces : Cursor → List Match → List (List Char)
  | last, [] => [last.after]
  | last, found :: rest => found.start.since last :: pieces found.finish rest

theorem pieces_fresh (found : List Match) : pieces cursor.fresh found = pieces cursor found := by
  cases found <;> rfl

theorem foldl_eq_pieces (found : List Match) (cut : List (List Char)) (last : Cursor) :
    ((found.foldl (fun (cut, last) found => (found.start.since last :: cut, found.finish)) (cut, last)).2.after ::
      (found.foldl (fun (cut, last) found => (found.start.since last :: cut, found.finish)) (cut, last)).1).reverse =
    cut.reverse ++ pieces last found := by
  induction found generalizing cut last with
  | nil => exact List.reverse_cons
  | cons first rest ih =>
    rw [List.foldl_cons, ih, pieces, List.reverse_cons, List.append_assoc]
    rfl

theorem split_eq_pieces (pattern : Pattern) (text : List Char) :
    pattern.split text = pieces (.start text) (pattern.findAll text) :=
  foldl_eq_pieces (pattern.findAll text) [] (.start text)

theorem pieces_idle (hgroups : cursor.groups = []) (budget : Nat)
    (hidle : pattern.Idle cursor cursor.after) (hend : pattern.ways (cursor.forward cursor.after) = []) :
    pieces cursor (pattern.allFrom budget cursor) = [cursor.after] := by
  rw [allFrom_idle hgroups budget hidle hend, pieces]

/-- The first piece ends where the first match starts, and the others are found behind it. -/
theorem pieces_match {front middle rest : List Char} (hgroups : cursor.groups = [])
    (hafter : cursor.after = front ++ rest) (hidle : pattern.Idle cursor front)
    (hway : (pattern.ways (cursor.forward front)).head? = some finish)
    (hpasses : (cursor.forward front).Passes middle finish) (hmiddle : middle ≠ []) (budget : Nat) :
    pieces cursor (pattern.allFrom (budget + 1) cursor) =
      front :: pieces finish.fresh (pattern.allFrom budget finish.fresh) := by
  rw [allFrom_match hgroups hafter hidle hway hpasses hmiddle, pieces, (Passes.forward hafter).since_eq,
    pieces_fresh]

/-! ### The characters of matches and of rewritten texts -/

section Characters

variable {first second : Pattern} {c : Char} {text : List Char}

/-- There is a way through the pattern only where a character follows somewhere. -/
def Requires (pattern : Pattern) (c : Char) : Prop :=
  ∀ cursor, pattern.ways cursor ≠ [] → c ∈ cursor.after

theorem requires_only (c : Char) : (only c).Requires c := by
  intro cursor h
  obtain ⟨next, hnext⟩ := List.exists_mem_of_ne_nil _ h
  obtain ⟨d, rest, hafter, hd, -⟩ := mem_ways_char.1 hnext
  rw [hafter, ← eq_of_beq hd]
  exact List.mem_cons_self

theorem Requires.seq_right (hsecond : second.Requires c) :
    (seq first second).Requires c := by
  intro cursor h
  obtain ⟨next, hnext⟩ := List.exists_mem_of_ne_nil _ h
  obtain ⟨middle, hmiddle, hnext⟩ := List.mem_flatMap.1 hnext
  obtain ⟨passed, hpasses⟩ := reaches_of_mem_ways hmiddle
  rw [hpasses.after]
  exact List.mem_append_right passed (hsecond middle (List.ne_nil_of_mem hnext))

theorem Requires.mem_of_occursIn (h : pattern.Requires c) (hoccurs : pattern.occursIn text = true) :
    c ∈ text := by
  obtain ⟨passed, rest, hafter, hways⟩ := (isSome_searchFrom?_iff rfl).1 hoccurs
  have hrest := h _ hways
  rw [Cursor.after_forward hafter] at hrest
  exact (show text = passed ++ rest from hafter) ▸ List.mem_append_right passed hrest

/-- A search finds something behind the place where it starts. -/
theorem exists_passes_of_searchFrom? {found : Match} (h : pattern.searchFrom? cursor = some found) :
    ∃ passed, cursor.Passes passed found.start := by
  have hsearch : ∀ (chars : List Char) (cursor : Cursor), cursor.after = chars →
      pattern.searchIn chars cursor = some found → ∃ passed, cursor.Passes passed found.start := by
    intro chars
    induction chars with
    | nil =>
      intro cursor _ hfound
      obtain ⟨finish, -, rfl⟩ := Option.map_eq_some_iff.1 hfound
      exact ⟨[], .refl cursor⟩
    | cons c rest ih =>
      intro cursor hafter hfound
      rw [searchIn] at hfound
      split at hfound
      · cases hfound
        exact ⟨[], .refl cursor⟩
      · obtain ⟨passed, hpasses⟩ := ih _ rfl hfound
        have hstep : cursor.Passes [c] ⟨c :: cursor.before, rest, cursor.position + 1, []⟩ :=
          ⟨rfl, hafter, rfl⟩
        exact ⟨[c] ++ passed, hstep.trans hpasses⟩
  exact hsearch cursor.after cursor rfl h

/-- All matches are found in the text around the place where the search starts. -/
theorem whole_of_mem_allFrom {budget : Nat} {found : Match} (h : found ∈ pattern.allFrom budget cursor) :
    found.start.whole = cursor.whole ∧ found.finish.whole = cursor.whole := by
  induction budget generalizing cursor with
  | zero => exact absurd h List.not_mem_nil
  | succ budget ih =>
    obtain ⟨first, hfirst, hfound⟩ := exists_of_mem_allFrom h
    obtain ⟨passed, hpasses⟩ := exists_passes_of_searchFrom? hfirst
    have hway := firstEnd_of_searchFrom? hfirst
    rw [firstEnd_some] at hway
    obtain ⟨middle, hmiddle⟩ := reaches_of_mem_ways (List.mem_of_head? hway)
    have hwhole : first.finish.whole = cursor.whole := hmiddle.whole_eq.trans hpasses.whole_eq
    rcases hfound with rfl | ⟨finish, next, rfl, hnext, hrest⟩
    · exact ⟨hpasses.whole_eq, hwhole⟩
    · have hmoved : next.whole = cursor.whole := by
        rcases hnext with rfl | hnext
        · exact hwhole
        · exact (Cursor.whole_of_advance? hnext).trans hwhole
      obtain ⟨hstart, hfinish⟩ := ih hrest
      exact ⟨hstart.trans hmoved, hfinish.trans hmoved⟩

theorem mem_of_mem_rewrite {found : List Match} {last : Cursor}
    (hfound : ∀ other ∈ found, other.start.whole = text ∧ other.finish.whole = text)
    (hlast : last.whole = text) (hreplacement : ∀ other, c ∉ replacement other)
    (h : c ∈ rewrite replacement last found) : c ∈ text := by
  induction found generalizing last with
  | nil =>
    rw [← hlast]
    exact List.mem_append_right _ h
  | cons first rest ih =>
    obtain ⟨⟨hstart, hfinish⟩, hrest⟩ := List.forall_mem_cons.1 hfound
    rw [rewrite, List.append_assoc] at h
    rcases List.mem_append.1 h with hkept | h
    · rw [← hstart]
      exact Cursor.mem_whole_of_since hkept
    rcases List.mem_append.1 h with hreplaced | h
    · exact absurd hreplaced (hreplacement first)
    · exact ih hrest hfinish h

/-- A character that no replacement holds comes from the text. -/
theorem mem_of_mem_replaceAll (hreplacement : ∀ found, c ∉ replacement found)
    (h : c ∈ pattern.replaceAll replacement text) : c ∈ text := by
  rw [replaceAll_eq_rewrite] at h
  refine @mem_of_mem_rewrite _ _ text _ (.start text) (fun found hfound => ?_) rfl hreplacement h
  exact whole_of_mem_allFrom hfound

end Characters

end Pattern

namespace Pattern

open Cursor (Passes)

/-! ### Rewriting from left to right -/

/-- The text that follows decides what a pattern matches: a beginning of it that is related to the rest. -/
structure Decides (pattern : Pattern) (language : List Char → List Char → Prop) : Prop where
  sound : ∀ cursor, ∀ next ∈ pattern.ways cursor,
    ∃ passed, language passed next.after ∧ cursor.Passes passed next
  complete : ∀ (cursor : Cursor) passed rest, cursor.after = passed ++ rest → language passed rest →
    pattern.ways cursor ≠ []
  unique : ∀ passed rest other more, passed ++ rest = other ++ more → language passed rest →
    language other more → passed = other
  ne : ∀ passed rest, language passed rest → passed ≠ []

/-- How a text is rewritten from left to right. -/
inductive Rewrites (language : List Char → List Char → Prop) (replacement : List Char) :
    List Char → List Char → Prop
  | done : Rewrites language replacement [] []
  | keep {c : Char} {rest written : List Char}
    (none : ∀ passed others, c :: rest = passed ++ others → ¬language passed others)
    (later : Rewrites language replacement rest written) :
    Rewrites language replacement (c :: rest) (c :: written)
  | replace {passed rest written : List Char} (found : language passed rest)
    (later : Rewrites language replacement rest written) :
    Rewrites language replacement (passed ++ rest) (replacement ++ written)

variable {pattern : Pattern} {language : List Char → List Char → Prop} {replacement : List Char}
  {cursor finish : Cursor} {text passed rest written : List Char} {c : Char}

theorem exists_rewrites (hne : ∀ passed rest, language passed rest → passed ≠ [])
    (replacement text : List Char) : ∃ written, Rewrites language replacement text written := by
  induction hlength : text.length using Nat.strongRecOn generalizing text with
  | _ length ih =>
    cases text with
    | nil => exact ⟨[], .done⟩
    | cons c others =>
      subst hlength
      by_cases hfound : ∃ passed rest, c :: others = passed ++ rest ∧ language passed rest
      · obtain ⟨passed, rest, heq, hfound⟩ := hfound
        have hshorter : rest.length < (c :: others).length := by
          have hpositive := List.length_pos_iff.2 (hne passed rest hfound)
          rw [heq, List.length_append]
          omega
        obtain ⟨written, hwritten⟩ := ih rest.length hshorter rest rfl
        rw [heq]
        exact ⟨_, .replace hfound hwritten⟩
      · obtain ⟨written, hwritten⟩ := ih others.length (Nat.lt_succ_self _) others rfl
        exact ⟨_, .keep (fun passed rest heq hlanguage => hfound ⟨passed, rest, heq, hlanguage⟩) hwritten⟩

/-- A text does not get longer where no match is shorter than what takes its place. -/
theorem Rewrites.length_le (hshort : ∀ passed rest, language passed rest → replacement.length ≤ passed.length)
    (h : Rewrites language replacement text written) : written.length ≤ text.length := by
  induction h with
  | done => exact Nat.le_refl 0
  | keep _ _ ih => exact Nat.succ_le_succ ih
  | replace hfound _ ih =>
    rw [List.length_append, List.length_append]
    exact Nat.add_le_add (hshort _ _ hfound) ih

/-- A character at which no way starts is kept. -/
theorem rewriteFrom_cons {replacement : Match → List Char} (hgroups : cursor.groups = [])
    (hafter : cursor.after = c :: rest) (hidle : pattern.ways cursor = []) (budget : Nat) :
    pattern.rewriteFrom replacement budget cursor =
      c :: pattern.rewriteFrom replacement budget (cursor.forward [c]) := by
  have hnext : (cursor.forward [c]).after = rest := @Cursor.after_forward cursor [c] rest hafter
  cases budget with
  | zero =>
    change cursor.after = c :: (cursor.forward [c]).after
    rw [hafter, hnext]
  | succ budget =>
    rw [rewriteFrom, rewriteFrom, allFrom, allFrom, searchFrom?_cons hgroups hafter hidle]
    cases hsearch : pattern.searchFrom? (cursor.forward [c]) with
    | none =>
      change cursor.after = c :: (cursor.forward [c]).after
      rw [hafter, hnext]
    | some found =>
      -- What is kept before the first match is one character longer.
      obtain ⟨passed, hpasses⟩ := exists_passes_of_searchFrom? hsearch
      have hstep : cursor.Passes [c] (cursor.forward [c]) := @Passes.forward cursor [c] rest hafter
      have hsince : found.start.since cursor = c :: found.start.since (cursor.forward [c]) := by
        rw [(hstep.trans hpasses).since_eq, hpasses.since_eq]
        rfl
      dsimp only
      split
      · split
        · rw [rewrite, rewrite, hsince]
          rfl
        · rw [rewrite, rewrite, hsince]
          rfl
      · rw [rewrite, rewrite, hsince]
        rfl

namespace Decides

variable (h : pattern.Decides language)

include h

theorem ways_eq_nil (hafter : cursor.after = text)
    (hnone : ∀ passed rest, text = passed ++ rest → ¬language passed rest) : pattern.ways cursor = [] := by
  refine List.eq_nil_iff_forall_not_mem.2 fun next hnext => ?_
  obtain ⟨passed, hlanguage, hpasses⟩ := h.sound cursor next hnext
  exact hnone passed next.after (hafter.symm.trans hpasses.after) hlanguage

theorem exists_head? (hafter : cursor.after = passed ++ rest) (hlanguage : language passed rest) :
    ∃ finish, (pattern.ways cursor).head? = some finish ∧ cursor.Passes passed finish := by
  obtain ⟨finish, hfinish⟩ := Option.isSome_iff_exists.1
    (List.isSome_head?.2 (h.complete cursor passed rest hafter hlanguage))
  obtain ⟨other, hother, hpasses⟩ := h.sound cursor finish (List.mem_of_head? hfinish)
  obtain rfl := h.unique passed rest other finish.after (hafter.symm.trans hpasses.after) hlanguage hother
  exact ⟨finish, hfinish, hpasses⟩

theorem rewriteFrom_eq (hrewrites : Rewrites language replacement text written)
    (hgroups : cursor.groups = []) (hafter : cursor.after = text) {budget : Nat}
    (hbudget : text.length < budget) :
    pattern.rewriteFrom (fun _ => replacement) budget cursor = written := by
  induction hrewrites generalizing cursor budget with
  | done =>
    have hend : pattern.ways (cursor.forward []) = [] := h.ways_eq_nil hafter fun passed rest heq hlanguage =>
      h.ne passed rest hlanguage (List.append_eq_nil_iff.1 heq.symm).1
    rw [rewriteFrom_idle hgroups budget, hafter]
    · rw [hafter]
      intro passed others heq hothers
      exact absurd (List.append_eq_nil_iff.1 heq.symm).2 hothers
    · rwa [hafter]
  | @keep c rest written hnone _ ih =>
    rw [rewriteFrom_cons hgroups hafter (h.ways_eq_nil hafter hnone),
      @ih (cursor.forward [c]) hgroups (@Cursor.after_forward cursor [c] rest hafter) budget
        (Nat.lt_of_succ_lt hbudget)]
  | @replace passed rest written hfound _ ih =>
    obtain ⟨budget, rfl⟩ := Nat.exists_eq_succ_of_ne_zero (Nat.ne_zero_of_lt hbudget)
    obtain ⟨finish, hfinish, hpasses⟩ := h.exists_head? hafter hfound
    have hidle : pattern.Idle cursor [] := fun front others heq hothers =>
      absurd (List.append_eq_nil_iff.1 heq.symm).2 hothers
    have hrest : finish.fresh.after = rest :=
      List.append_cancel_left (hpasses.after.symm.trans hafter)
    have hpositive := List.length_pos_iff.2 (h.ne passed rest hfound)
    rw [List.length_append] at hbudget
    rw [rewriteFrom_match hgroups (List.nil_append _).symm hidle hfinish hpasses (h.ne passed rest hfound),
      @ih finish.fresh rfl hrest budget (by omega), List.nil_append]

theorem replaceAll_eq (hrewrites : Rewrites language replacement text written) :
    pattern.replaceAll (fun _ => replacement) text = written := by
  rw [replaceAll_eq_rewrite]
  exact @rewriteFrom_eq _ _ _ (.start text) _ _ h hrewrites rfl rfl _ (Nat.lt_succ_self _)

theorem replaceAll_nil : pattern.replaceAll (fun _ => replacement) [] = [] := h.replaceAll_eq .done

theorem replaceAll_cons (hnone : ∀ passed others, c :: rest = passed ++ others → ¬language passed others) :
    pattern.replaceAll (fun _ => replacement) (c :: rest) =
      c :: pattern.replaceAll (fun _ => replacement) rest := by
  obtain ⟨written, hwritten⟩ := exists_rewrites h.ne replacement rest
  rw [h.replaceAll_eq hwritten, h.replaceAll_eq (.keep hnone hwritten)]

theorem replaceAll_append (hfound : language passed rest) :
    pattern.replaceAll (fun _ => replacement) (passed ++ rest) =
      replacement ++ pattern.replaceAll (fun _ => replacement) rest := by
  obtain ⟨written, hwritten⟩ := exists_rewrites h.ne replacement rest
  rw [h.replaceAll_eq hwritten, h.replaceAll_eq (.replace hfound hwritten)]

theorem length_replaceAll_le
    (hshort : ∀ passed rest, language passed rest → replacement.length ≤ passed.length) (text : List Char) :
    (pattern.replaceAll (fun _ => replacement) text).length ≤ text.length := by
  obtain ⟨written, hwritten⟩ := exists_rewrites h.ne replacement text
  rw [h.replaceAll_eq hwritten]
  exact hwritten.length_le hshort

end Decides

/-! ### Rounds of a pattern -/

section Rounds

variable {body : Pattern} {next : Cursor} {pieces : List (List Char)} {budget : Nat}
  {holds : List Char → Prop} {places : Cursor → List Cursor}

theorem ways_many (h : body.single? = none) (cursor : Cursor) :
    (many body).ways cursor = roundWays body.ways true (cursor.after.length + 1) cursor := by
  rw [many, ways, exactWays, List.flatMap_singleton, h]

/-- Several rounds run over pieces, one after the other. -/
theorem exists_pieces_of_mem_exactWays
    (h : ∀ cursor, ∀ next ∈ places cursor, ∃ piece, holds piece ∧ cursor.Passes piece next) {count : Nat}
    (hnext : next ∈ exactWays places count cursor) : ∃ pieces : List (List Char),
      pieces.length = count ∧ (∀ piece ∈ pieces, holds piece) ∧ cursor.Passes pieces.flatten next := by
  induction count generalizing cursor with
  | zero =>
    rw [List.mem_singleton.1 hnext]
    exact ⟨[], rfl, List.forall_mem_nil _, .refl cursor⟩
  | succ count ih =>
    obtain ⟨middle, hmiddle, hnext⟩ := List.mem_flatMap.1 hnext
    obtain ⟨piece, hpiece, hpasses⟩ := h cursor middle hmiddle
    obtain ⟨pieces, hlength, hpieces, hlater⟩ := ih hnext
    exact ⟨piece :: pieces, by rw [List.length_cons, hlength], List.forall_mem_cons.2 ⟨hpiece, hpieces⟩,
      hpasses.trans hlater⟩

theorem exists_pieces_of_mem_roundWays
    (h : ∀ cursor, ∀ next ∈ places cursor, ∃ piece, holds piece ∧ cursor.Passes piece next) {eager : Bool}
    (hnext : next ∈ roundWays places eager budget cursor) :
    ∃ pieces : List (List Char), pieces.length ≤ budget ∧ (∀ piece ∈ pieces, holds piece) ∧
      cursor.Passes pieces.flatten next := by
  induction budget generalizing cursor with
  | zero =>
    rw [List.mem_singleton.1 hnext]
    exact ⟨[], Nat.le_refl 0, List.forall_mem_nil _, .refl cursor⟩
  | succ budget ih =>
    have hlast : next = cursor → ∃ pieces : List (List Char), pieces.length ≤ budget + 1 ∧
        (∀ piece ∈ pieces, holds piece) ∧ cursor.Passes pieces.flatten next := by
      rintro rfl
      exact ⟨[], Nat.zero_le _, List.forall_mem_nil _, .refl next⟩
    have hfurther : next ∈ ((places cursor).flatMap fun middle =>
        if middle.position = cursor.position then [middle]
        else roundWays places eager budget middle) → ∃ pieces : List (List Char),
          pieces.length ≤ budget + 1 ∧ (∀ piece ∈ pieces, holds piece) ∧
          cursor.Passes pieces.flatten next := by
      intro hnext
      obtain ⟨middle, hmiddle, hnext⟩ := List.mem_flatMap.1 hnext
      obtain ⟨piece, hpiece, hpasses⟩ := h cursor middle hmiddle
      split at hnext
      · rw [List.mem_singleton.1 hnext]
        exact ⟨[piece], Nat.succ_le_succ (Nat.zero_le _), List.forall_mem_singleton.2 hpiece,
          by rwa [List.flatten_singleton]⟩
      · obtain ⟨pieces, hlength, hpieces, hlater⟩ := ih hnext
        exact ⟨piece :: pieces, Nat.succ_le_succ hlength, List.forall_mem_cons.2 ⟨hpiece, hpieces⟩,
          hpasses.trans hlater⟩
    cases eager with
    | true =>
      rcases List.mem_append.1 hnext with hnext | hnext
      · exact hfurther hnext
      · exact hlast (List.mem_singleton.1 hnext)
    | false =>
      rcases List.mem_cons.1 hnext with rfl | hnext
      · exact hlast rfl
      · exact hfurther hnext

/-- Several rounds can run over pieces that each can be run over. -/
theorem exists_exactWay
    (h : ∀ cursor piece rest, holds piece → cursor.after = piece ++ rest →
      ∃ next ∈ places cursor, cursor.Passes piece next)
    (hpieces : ∀ piece ∈ pieces, holds piece) (hafter : cursor.after = pieces.flatten ++ rest) :
    ∃ next ∈ exactWays places pieces.length cursor, cursor.Passes pieces.flatten next := by
  induction pieces generalizing cursor with
  | nil => exact ⟨cursor, List.mem_singleton_self cursor, .refl cursor⟩
  | cons piece pieces ih =>
    obtain ⟨hpiece, hpieces⟩ := List.forall_mem_cons.1 hpieces
    rw [List.flatten_cons, List.append_assoc] at hafter
    obtain ⟨middle, hmiddle, hpasses⟩ := h cursor piece _ hpiece hafter
    obtain ⟨next, hnext, hlater⟩ := ih hpieces (List.append_cancel_left (hpasses.after.symm.trans hafter))
    exact ⟨next, List.mem_flatMap.2 ⟨middle, hmiddle, hnext⟩, hpasses.trans hlater⟩

theorem exists_roundWay
    (h : ∀ cursor piece rest, holds piece → cursor.after = piece ++ rest →
      ∃ next ∈ places cursor, cursor.Passes piece next)
    (hpieces : ∀ piece ∈ pieces, piece ≠ [] ∧ holds piece)
    (hafter : cursor.after = pieces.flatten ++ rest) (hbudget : pieces.length ≤ budget) (eager : Bool) :
    ∃ next ∈ roundWays places eager budget cursor, cursor.Passes pieces.flatten next := by
  induction pieces generalizing cursor budget with
  | nil =>
    refine ⟨cursor, ?_, .refl cursor⟩
    cases budget with
    | zero => exact List.mem_singleton_self cursor
    | succ budget =>
      cases eager with
      | true => exact List.mem_append_right _ (List.mem_singleton_self cursor)
      | false => exact List.mem_cons_self
  | cons piece pieces ih =>
    obtain ⟨⟨hne, hpiece⟩, hpieces⟩ := List.forall_mem_cons.1 hpieces
    obtain ⟨budget, rfl⟩ := Nat.exists_eq_add_of_le' (Nat.lt_of_lt_of_le (Nat.zero_lt_succ _) hbudget)
    rw [List.flatten_cons, List.append_assoc] at hafter
    obtain ⟨middle, hmiddle, hpasses⟩ := h cursor piece _ hpiece hafter
    obtain ⟨next, hnext, hlater⟩ := ih hpieces
      (List.append_cancel_left (hpasses.after.symm.trans hafter)) (Nat.le_of_succ_le_succ hbudget)
    have hmoved : middle.position ≠ cursor.position := by
      have hpositive := List.length_pos_iff.2 hne
      rw [hpasses.position]
      omega
    have hfurther : next ∈ (places cursor).flatMap fun middle =>
        if middle.position = cursor.position then [middle] else roundWays places eager budget middle :=
      List.mem_flatMap.2 ⟨middle, hmiddle, by rwa [if_neg hmoved]⟩
    refine ⟨next, ?_, hpasses.trans hlater⟩
    cases eager with
    | true => exact List.mem_append_left _ hfurther
    | false => exact List.mem_cons_of_mem _ hfurther

end Rounds

end Pattern

end KotlinAudit
