import KotlinAudit.Proofs.Pattern.Replacing
import KotlinAudit.Proofs.Rule.Placement
import KotlinAudit.Proofs.Source.Declaration
import Mathlib.Data.List.DropRight
import Mathlib.Algebra.Group.Nat.Even

/-! What is said about quoted texts. Cutting down pairs the quotes from left to right, without asking which of
them opens a text. A text of less than four characters between two quotes is passed over, and then its
closing quote is taken for an opening one. So whether a literal is cut down depends on what is quoted
before it. An address without encryption is reported unless it starts like one that is exempt, and it is not
asked whether the host ends there. -/
namespace KotlinAudit.Rule.Security

open Pattern
open Cursor (Passes)
open Text (Line Free)

def isQuote (c : Char) : Bool := "'\"".toList.contains c

/-! ### The pattern of quoted texts -/

theorem quotedText_eq : quotedText = .seq (.capture 1 (.char isQuote))
    (.seq (.capture 2 (.repeated true 4 (some 4) (.char (!isQuote ·))))
      (.seq (.repeated true 0 none (.char (!isQuote ·))) (.capture 3 (.char isQuote)))) := rfl

/-- A way through the pattern of quoted texts runs from a quote over four characters at least to the next
quote. -/
theorem exists_of_mem_ways {cursor next : Cursor} (hplaced : cursor.Placed)
    (h : next ∈ quotedText.ways cursor) : ∃ opening inner closing, isQuote opening = true ∧
      isQuote closing = true ∧ 4 ≤ inner.length ∧ Text.Free isQuote inner ∧
      cursor.Passes (opening :: (inner ++ [closing])) next ∧ next.group 1 = [opening] ∧
      next.group 2 = inner.take 4 ∧ next.group 3 = [closing] := by
  rw [quotedText_eq] at h
  obtain ⟨first, hfirst, h⟩ := List.mem_flatMap.1 h
  obtain ⟨second, hsecond, h⟩ := List.mem_flatMap.1 h
  obtain ⟨third, hthird, h⟩ := List.mem_flatMap.1 h
  obtain ⟨place, hplace, hgroups, hcapture⟩ := exists_of_mem_ways_capture hfirst
  obtain ⟨opening, hopening, hpasses, hkept⟩ := passes_of_mem_ways_char hplace
  have hopens := hcapture _ hpasses
  obtain ⟨place, hplace, hgroups', hcapture⟩ := exists_of_mem_ways_capture hsecond
  obtain ⟨front, hleast, hmost, hfront, hpasses, hkept'⟩ := passes_of_mem_ways_repeated hplace
  have hbegins := hcapture _ hpasses
  obtain ⟨back, -, -, hback, hgoes, hthrough⟩ := passes_of_mem_ways_repeated hthird
  obtain ⟨place, hplace, hgroups'', hcapture⟩ := exists_of_mem_ways_capture h
  obtain ⟨closing, hclosing, hpasses, hkept''⟩ := passes_of_mem_ways_char hplace
  have hcloses := hcapture _ hpasses
  have hlength : front.length = 4 := le_antisymm (hmost 4 rfl) hleast
  have hall : next.groups = [(3, ⟨third.position, next.position⟩),
      (2, ⟨first.position, second.position⟩), (1, ⟨cursor.position, first.position⟩)] ++
        cursor.groups := by
    rw [hgroups'', hkept'', hthrough, hgroups', hkept', hgroups, hkept]
    rfl
  have hinner : front ++ (back ++ [closing]) = front ++ back ++ [closing] :=
    (List.append_assoc _ _ _).symm
  refine ⟨opening, front ++ back, closing, hopening, hclosing, ?_, ?_, ?_, ?_, ?_, ?_⟩
  · rw [List.length_append, hlength]
    exact Nat.le_add_right _ _
  · intro c hc
    rcases List.mem_append.1 hc with hc | hc
    · exact Bool.not_eq_true' _ ▸ hfront c hc
    · exact Bool.not_eq_true' _ ▸ hback c hc
  · rw [← hinner]
    exact hopens.trans (hbegins.trans (hgoes.trans hcloses))
  · exact hopens.group_eq (hbegins.trans (hgoes.trans hcloses)) hplaced (by rw [hall]; rfl)
  · rw [List.take_left' hlength]
    exact hbegins.group_eq (hgoes.trans hcloses) (hopens.placed hplaced) (by rw [hall]; rfl)
  · exact hcloses.group_eq (.refl next)
      (hgoes.placed (hbegins.placed (hopens.placed hplaced))) (by rw [hall]; rfl)

/-! ### Cutting down -/

/-- The texts between quotes, as they are shown: those that are cut down and those that are kept. -/
def cut : List (List Char) → List (List Char)
  | piece :: next :: rest =>
    if 4 ≤ piece.length then (piece.take 4 ++ "****".toList) :: next :: cut rest
    else piece :: cut (next :: rest)
  | pieces => pieces

/-- What is put in place of a quoted text. -/
def shortened (found : Match) : List Char :=
  found.group 1 ++ found.group 2 ++ "****".toList ++ found.group 3

theorem redact_eq (line : Text.Line) : redact line = quotedText.replaceAll shortened line := rfl

section Rewriting

variable {cursor : Cursor} {text piece rest : List Char}

theorem ways_at_end (hplaced : cursor.Placed) (hafter : cursor.after = []) :
    quotedText.ways cursor = [] := by
  by_contra hways
  obtain ⟨next, hnext⟩ := List.exists_mem_of_ne_nil _ hways
  obtain ⟨opening, inner, closing, -, -, -, -, hpasses, -⟩ := exists_of_mem_ways hplaced hnext
  rw [hpasses.after] at hafter
  cases hafter

/-- No way starts in a text without quotes. -/
theorem idle_free (hplaced : cursor.Placed) (htext : Text.Free isQuote text)
    (hafter : cursor.after = text ++ rest) : quotedText.Idle cursor text := by
  intro passed others heq hothers
  by_contra hways
  obtain ⟨next, hnext⟩ := List.exists_mem_of_ne_nil _ hways
  have hahead : cursor.after = passed ++ (others ++ rest) := by
    rw [hafter, heq, List.append_assoc]
  obtain ⟨opening, inner, closing, hopening, -, -, -, hpasses, -⟩ :=
    exists_of_mem_ways ((Passes.forward hahead).placed hplaced) hnext
  have hmatch := hpasses.after
  rw [Cursor.after_forward hahead] at hmatch
  cases others with
  | nil => exact hothers rfl
  | cons c others =>
    obtain ⟨rfl, -⟩ := List.cons.inj hmatch
    rw [htext c (heq ▸ List.mem_append_right passed List.mem_cons_self)] at hopening
    cases hopening

/-- No way starts at a quote before a text that is short or that no quote closes. -/
theorem idle_quote (hplaced : cursor.Placed) (hpiece : Text.Free isQuote piece)
    (hafter : cursor.after = '"' :: (piece ++ rest))
    (hrest : rest = [] ∨ piece.length < 4 ∧ ∃ others, rest = '"' :: others) :
    quotedText.ways cursor = [] := by
  by_contra hways
  obtain ⟨next, hnext⟩ := List.exists_mem_of_ne_nil _ hways
  obtain ⟨opening, inner, closing, -, hclosing, hlong, hinner, hpasses, -⟩ :=
    exists_of_mem_ways hplaced hnext
  have hmatch := hpasses.after
  rw [hafter, List.cons_append, List.append_assoc, List.singleton_append] at hmatch
  obtain ⟨-, hmatch⟩ := List.cons.inj hmatch
  rcases hrest with rfl | ⟨hshort, others, rfl⟩
  · rw [List.append_nil] at hmatch
    have hfree := hpiece closing (hmatch ▸ List.mem_append_right inner List.mem_cons_self)
    rw [hclosing] at hfree
    cases hfree
  · obtain ⟨rfl, -⟩ := hpiece.append_cons_inj hinner rfl hclosing hmatch
    omega

theorem idle_piece (hplaced : cursor.Placed) (hpiece : Text.Free isQuote piece)
    (hafter : cursor.after = '"' :: (piece ++ rest))
    (hrest : rest = [] ∨ piece.length < 4 ∧ ∃ others, rest = '"' :: others) :
    quotedText.Idle cursor ('"' :: piece) := by
  have hquote : quotedText.Idle cursor ['"'] := by
    intro passed others heq hothers
    cases passed with
    | nil => exact idle_quote hplaced hpiece hafter hrest
    | cons c passed => exact absurd (List.append_eq_nil_iff.1 (List.cons.inj heq).2.symm).2 hothers
  have hforward : cursor.after = ['"'] ++ (piece ++ rest) := hafter
  exact hquote.append (idle_free ((Passes.forward hforward).placed hplaced) hpiece
    (Cursor.after_forward hforward))

/-- At a quote before a long text with a closing quote there is a way, and all ways run over this text. -/
theorem ways_long (hplaced : cursor.Placed) (hpiece : Text.Free isQuote piece) (hlong : 4 ≤ piece.length)
    (hafter : cursor.after = '"' :: (piece ++ '"' :: rest)) :
    ∃ finish, (quotedText.ways cursor).head? = some finish ∧
      cursor.Passes ('"' :: (piece ++ ['"'])) finish ∧
      shortened ⟨cursor, finish⟩ = '"' :: (piece.take 4 ++ "****".toList ++ ['"']) := by
  have hlanguage : quotedText.language ('"' :: (piece ++ ['"'])) := by
    have hkeeps : ∀ c ∈ piece, (Pattern.char (!isQuote ·)).language [c] := by
      intro c hc
      refine language_char_iff.2 ?_
      rw [hpiece c hc]
      rfl
    have htake : (piece.take 4).length = 4 := by rw [List.length_take, Nat.min_eq_left hlong]
    refine ⟨['"'], piece ++ ['"'], rfl, ⟨'"', rfl, rfl⟩, piece.take 4, piece.drop 4 ++ ['"'], ?_, ?_,
      piece.drop 4, ['"'], rfl, ?_, ⟨'"', rfl, rfl⟩⟩
    · rw [← List.append_assoc, List.take_append_drop]
    · refine ⟨htake.ge, fun count _ => ?_, fun c hc => hkeeps c (List.mem_of_mem_take hc)⟩
      exact htake.le.trans (Nat.le_max_left 4 count)
    · exact ⟨Nat.zero_le _, nofun, fun c hc => hkeeps c (List.mem_of_mem_drop hc)⟩
  have hahead : cursor.after = '"' :: (piece ++ ['"']) ++ rest := by
    rw [hafter, List.cons_append, List.append_assoc, List.singleton_append]
  obtain ⟨next, hnext, -⟩ := exists_way (show quotedText.isPlain = true from rfl) hlanguage hahead
  obtain ⟨finish, hfinish⟩ := Option.isSome_iff_exists.1
    (List.isSome_head?.2 (List.ne_nil_of_mem hnext))
  obtain ⟨opening, inner, closing, hopening, hclosing, -, hinner, hpasses, hfirst, hsecond, hthird⟩ :=
    exists_of_mem_ways hplaced (List.mem_of_mem_head? hfinish)
  have hmatch := hpasses.after
  rw [hafter, List.cons_append, List.append_assoc, List.singleton_append] at hmatch
  obtain ⟨rfl, hinside⟩ := List.cons.inj hmatch
  obtain ⟨rfl, rfl, -⟩ := hpiece.append_cons_inj hinner hopening hclosing hinside
  refine ⟨finish, hfinish, hpasses, ?_⟩
  rw [shortened, Match.group, Match.group, Match.group, hfirst, hsecond, hthird]
  rfl

/-- A line of texts between quotes is rewritten piece by piece. -/
theorem rewriteFrom_join {pieces : List (List Char)} {gap : List Char} {budget : Nat}
    (hgroups : cursor.groups = []) (hplaced : cursor.Placed)
    (hafter : cursor.after = Text.join ['"'] (gap :: pieces)) (hbudget : cursor.after.length < budget)
    (hpieces : ∀ piece ∈ pieces, Text.Free isQuote piece) (hidle : quotedText.Idle cursor gap) :
    quotedText.rewriteFrom shortened budget cursor = Text.join ['"'] (gap :: cut pieces) := by
  -- Whatever has been passed over in vain belongs to the gap.
  induction pieces using cut.induct generalizing cursor gap budget with
  | case1 piece next rest hlong ih =>
    obtain ⟨budget, rfl⟩ := Nat.exists_eq_succ_of_ne_zero (Nat.ne_zero_of_lt hbudget)
    rw [Text.join_cons_cons, Text.join_cons_cons] at hafter
    have hforward := Cursor.after_forward hafter
    have hplaced' := (Passes.forward hafter).placed hplaced
    obtain ⟨hpiece, hnext, hrest⟩ : Text.Free isQuote piece ∧ Text.Free isQuote next ∧
        ∀ piece ∈ rest, Text.Free isQuote piece := by simpa using hpieces
    obtain ⟨finish, hway, hpasses, hshort⟩ := ways_long hplaced' hpiece hlong hforward
    have hfinish : finish.fresh.after = Text.join ['"'] (next :: rest) := by
      have hrest := hpasses.after
      rw [hforward, List.cons_append, List.append_assoc, List.singleton_append] at hrest
      exact (List.cons.inj (List.append_cancel_left (List.cons.inj hrest).2)).2.symm
    have hfresh : finish.fresh.Placed := hpasses.placed hplaced'
    obtain ⟨others, hothers⟩ := Text.exists_join_cons_eq '"' next rest
    rw [rewriteFrom_match hgroups hafter hidle hway hpasses (List.cons_ne_nil _ _), hshort,
      @ih finish.fresh next budget rfl hfresh hfinish ?_ hrest
        (idle_free hfresh hnext (hfinish.trans hothers)), cut, if_pos hlong, Text.join_cons_cons,
      Text.join_cons_cons]
    · simp
    · rw [hafter] at hbudget
      rw [hfinish]
      simp only [List.length_append, List.length_cons] at hbudget
      omega
  | case2 piece next rest hshort ih =>
    rw [cut, if_neg hshort, ← Text.join_append_cons]
    have hahead := hafter
    rw [Text.join_cons_cons, Text.join_cons_cons] at hahead
    refine ih hgroups hplaced (hafter.trans (Text.join_append_cons _ _ _).symm) hbudget
      (List.forall_mem_cons.1 hpieces).2 (hidle.append ?_)
    exact idle_piece ((Passes.forward hahead).placed hplaced) (List.forall_mem_cons.1 hpieces).1
      (Cursor.after_forward hahead) (.inr ⟨by omega, _, rfl⟩)
  | case3 pieces hfew =>
    have hcut : cut pieces = pieces := by rw [cut.eq_2 pieces hfew]
    have hall : quotedText.Idle cursor cursor.after := by
      cases pieces with
      | nil =>
        have hgap : cursor.after = gap := hafter.trans (List.append_nil gap)
        rwa [hgap]
      | cons piece rest =>
        cases rest with
        | nil =>
          have hlast : cursor.after = gap ++ '"' :: (piece ++ []) :=
            hafter.trans (Text.join_cons_cons gap piece [])
          rw [show cursor.after = gap ++ '"' :: piece by rw [hlast, List.append_nil]]
          exact hidle.append (idle_piece ((Passes.forward hlast).placed hplaced)
            (hpieces piece List.mem_cons_self) (Cursor.after_forward hlast) (.inl rfl))
        | cons next rest => exact (hfew piece next rest rfl).elim
    have hend := (List.append_nil cursor.after).symm
    rw [hcut, rewriteFrom_idle hgroups budget hall (ways_at_end ((Passes.forward hend).placed hplaced)
      (Cursor.after_forward hend)), hafter]

end Rewriting

theorem redact_join {lead : List Char} {pieces : List (List Char)}
    (h : ∀ piece ∈ lead :: pieces, Text.Free isQuote piece) :
    redact (Text.join ['"'] (lead :: pieces)) = Text.join ['"'] (lead :: cut pieces) := by
  obtain ⟨hlead, hpieces⟩ := List.forall_mem_cons.1 h
  obtain ⟨rest, hrest⟩ := Text.exists_join_cons_eq '"' lead pieces
  rw [redact_eq, replaceAll_eq_rewrite]
  exact @rewriteFrom_join (.start (Text.join ['"'] (lead :: pieces))) pieces lead _ rfl rfl rfl
    (Nat.lt_succ_self _) hpieces (idle_free rfl hlead hrest)

/-! ### What is kept -/

/-- How many texts of four characters at least stand in a row at the end. -/
def longRow (pieces : List (List Char)) : Nat := (pieces.rtakeWhile (4 ≤ ·.length)).length

/-- A text between two quotes is cut down if it has four characters at least and an even number of texts of
this kind stands in a row before it. -/
structure IsCut (before : List (List Char)) (piece : List Char) (behind : List (List Char)) : Prop where
  closed : behind ≠ []
  long : 4 ≤ piece.length
  even : Even (longRow before)

theorem longRow_cons (piece : List Char) (pieces : List (List Char)) :
    longRow (piece :: pieces) =
      if longRow pieces = pieces.length ∧ 4 ≤ piece.length then pieces.length + 1
      else longRow pieces := by
  have hrow : longRow pieces = (pieces.reverse.takeWhile (4 ≤ ·.length)).length := by
    rw [longRow, List.rtakeWhile, List.length_reverse]
  rw [hrow, longRow, List.rtakeWhile, List.length_reverse, List.reverse_cons, List.takeWhile_append,
    List.length_reverse]
  by_cases hall : (pieces.reverse.takeWhile (4 ≤ ·.length)).length = pieces.length
  · by_cases hlong : 4 ≤ piece.length
    · simp [hall, hlong]
    · simp [hall, hlong]
  · simp [hall]

theorem longRow_cons_short {piece : List Char} (h : ¬4 ≤ piece.length) (pieces : List (List Char)) :
    longRow (piece :: pieces) = longRow pieces := by
  rw [longRow_cons, if_neg fun hboth => h hboth.2]

/-- Two texts at the front make no difference if the first one is long. -/
theorem even_longRow_cons_cons {piece : List Char} (h : 4 ≤ piece.length) (next : List Char)
    (pieces : List (List Char)) :
    Even (longRow (piece :: next :: pieces)) ↔ Even (longRow pieces) := by
  rw [longRow_cons piece, longRow_cons next]
  by_cases hall : longRow pieces = pieces.length
  · by_cases hnext : 4 ≤ next.length
    · simp [hall, hnext, h, Nat.even_add_one]
    · simp [hall, hnext]
  · have hle : longRow pieces ≤ pieces.length := (List.rtakeWhile_suffix _ pieces).length_le
    simp [hall, show longRow pieces ≠ pieces.length + 1 by omega]

theorem exists_split_cons {α : Type} {holds : List α → α → List α → Prop} {first : α} {rest : List α} :
    (∃ before item behind, first :: rest = before ++ item :: behind ∧ holds before item behind) ↔
      holds [] first rest ∨
        ∃ before item behind, rest = before ++ item :: behind ∧ holds (first :: before) item behind := by
  constructor
  · rintro ⟨before, item, behind, heq, h⟩
    cases before with
    | nil =>
      obtain ⟨rfl, rfl⟩ := List.cons.inj heq
      exact .inl h
    | cons other before =>
      obtain ⟨rfl, rfl⟩ := List.cons.inj heq
      exact .inr ⟨before, item, behind, rfl, h⟩
  · rintro (h | ⟨before, item, behind, rfl, h⟩)
    · exact ⟨[], first, rest, rfl, h⟩
    · exact ⟨first :: before, item, behind, rfl, h⟩

/-- What is shown of the texts between quotes. -/
theorem mem_cut_iff {pieces : List (List Char)} {shown : List Char} :
    shown ∈ cut pieces ↔ ∃ before piece behind, pieces = before ++ piece :: behind ∧
      (IsCut before piece behind ∧ shown = piece.take 4 ++ "****".toList ∨
        ¬IsCut before piece behind ∧ shown = piece) := by
  -- Cutting takes two texts at a time, which leaves the parity of the long ones before a place as it is.
  induction pieces using cut.induct with
  | case1 piece next rest hlong ih =>
    have hcut : IsCut [] piece (next :: rest) := ⟨List.cons_ne_nil _ _, hlong, ⟨0, rfl⟩⟩
    have hkept : ¬IsCut [piece] next rest := by
      rintro ⟨-, -, heven⟩
      simp [longRow, List.rtakeWhile, hlong] at heven
    have hskip : ∀ before other behind,
        IsCut (piece :: next :: before) other behind ↔ IsCut before other behind := by
      intro before other behind
      constructor
      · exact fun h => ⟨h.closed, h.long, (even_longRow_cons_cons hlong next before).1 h.even⟩
      · exact fun h => ⟨h.closed, h.long, (even_longRow_cons_cons hlong next before).2 h.even⟩
    rw [cut, if_pos hlong, List.mem_cons, List.mem_cons, ih, exists_split_cons, exists_split_cons]
    simp only [hcut, hkept, hskip, true_and, not_true_eq_false, false_and, or_false,
      not_false_eq_true, false_or]
  | case2 piece next rest hshort ih =>
    have hkept : ∀ behind, ¬IsCut [] piece behind := fun behind h => hshort h.long
    have hskip : ∀ before other behind,
        IsCut (piece :: before) other behind ↔ IsCut before other behind := by
      intro before other behind
      constructor
      · exact fun h => ⟨h.closed, h.long, longRow_cons_short hshort before ▸ h.even⟩
      · exact fun h => ⟨h.closed, h.long, (longRow_cons_short hshort before).symm ▸ h.even⟩
    rw [cut, if_neg hshort, List.mem_cons, ih, @exists_split_cons _ _ piece (next :: rest)]
    simp only [hkept, hskip, not_false_eq_true, true_and, false_and, false_or]
  | case3 pieces hfew =>
    rw [cut.eq_2 pieces hfew]
    cases pieces with
    | nil => simp
    | cons piece rest =>
      cases rest with
      | nil =>
        have hkept : ¬IsCut [] piece [] := fun h => h.closed rfl
        rw [exists_split_cons]
        simp [hkept]
      | cons next rest => exact (hfew piece next rest rfl).elim

/-- A text can be read in what is shown exactly if a text that is not cut down holds it. -/
theorem infix_join_cut_iff {literal lead : List Char} {pieces : List (List Char)}
    (hlong : 9 ≤ literal.length) (hquote : '"' ∉ literal) :
    literal <:+: Text.join ['"'] (lead :: cut pieces) ↔ literal <:+: lead ∨
      ∃ before piece behind, pieces = before ++ piece :: behind ∧ ¬IsCut before piece behind ∧
        literal <:+: piece := by
  have hne : literal ≠ [] := List.ne_nil_of_length_pos (by omega)
  have hmasked : ∀ piece : List Char, ¬literal <:+: piece.take 4 ++ "****".toList := by
    intro piece hin
    have hlength := hin.length_le
    rw [List.length_append, List.length_take, show "****".toList.length = 4 from rfl] at hlength
    omega
  rw [Text.infix_join_iff hne hquote, List.exists_mem_cons_iff]
  refine or_congr_right ?_
  simp only [mem_cut_iff]
  constructor
  · rintro ⟨shown, ⟨before, piece, behind, heq, ⟨-, rfl⟩ | ⟨hkept, rfl⟩⟩, hin⟩
    · exact absurd hin (hmasked piece)
    · exact ⟨before, shown, behind, heq, hkept, hin⟩
  · rintro ⟨before, piece, behind, heq, hkept, hin⟩
    exact ⟨piece, ⟨before, piece, behind, heq, .inr ⟨hkept, rfl⟩⟩, hin⟩

/-! ### Secrets in quotes -/

/-- A line of texts without quotes and of quoted literals, each with the text behind it. -/
def written (lead : List Char) (quoted : List (List Char × List Char)) : List Char :=
  lead ++ quoted.flatMap fun (literal, rest) => '"' :: (literal ++ '"' :: rest)

/-- The texts behind the first quote of such a line, in their order. -/
def pieces (quoted : List (List Char × List Char)) : List (List Char) :=
  quoted.flatMap fun (literal, rest) => [literal, rest]

theorem written_eq (lead : List Char) (quoted : List (List Char × List Char)) :
    written lead quoted = Text.join ['"'] (lead :: pieces quoted) := by
  induction quoted generalizing lead with
  | nil => rfl
  | cons first others ih =>
    obtain ⟨literal, rest⟩ := first
    have hpieces : pieces ((literal, rest) :: others) = literal :: rest :: pieces others := rfl
    rw [hpieces, Text.join_cons_cons, Text.join_cons_cons, ← ih, written, List.flatMap_cons,
      List.cons_append, List.append_assoc]
    rfl

/-- A line of texts and literals in which a long literal of letters and digits is the end of what a
pattern of keys matches. -/
structure HoldsKey (lead : List Char) (front : List (List Char × List Char)) (literal rest : List Char)
    (back : List (List Char × List Char)) : Prop where
  plain : ∀ piece ∈ lead :: pieces (front ++ (literal, rest) :: back), Text.Free isQuote piece
  letters : ∀ c ∈ literal, (Text.isAsciiLetter c || Text.isAsciiDigit c) = true
  long : 20 ≤ literal.length
  matched : ∃ pattern ∈ secretPatterns.take 5, ∃ before stretch, written lead front = before ++ stretch ∧
    pattern.matchesWhole (stretch ++ '"' :: (literal ++ ['"'])) = true

theorem isPlain_of_mem_take : ∀ pattern ∈ secretPatterns.take 5, pattern.isPlain = true := by
  decide

theorem isSome_secretIndex? {lead : List Char} {front back : List (List Char × List Char)}
    {literal rest : List Char} (h : HoldsKey lead front literal rest back) :
    (secretIndex? (written lead (front ++ (literal, rest) :: back))).isSome = true := by
  obtain ⟨pattern, hpattern, before, stretch, hstretch, hmatches⟩ := h.matched
  obtain ⟨behind, hbehind⟩ : ∃ behind, written lead (front ++ (literal, rest) :: back) =
      before ++ (stretch ++ '"' :: (literal ++ ['"']) ++ behind) := by
    refine ⟨written rest back, ?_⟩
    have hwritten : written lead (front ++ (literal, rest) :: back) =
        written lead front ++ '"' :: (literal ++ '"' :: written rest back) := by
      simp [written]
    rw [hwritten, hstretch]
    simp
  rw [secretIndex?, List.findIdx?_isSome, List.any_eq_true, hbehind]
  exact ⟨pattern, List.mem_of_mem_take hpattern,
    occursIn_of_matchesWhole (isPlain_of_mem_take pattern hpattern) hmatches⟩

/-- The finding about a line with a key in quotes shows the line with some of its texts cut down. The key
cannot be read there exactly if it does not stand in front of the first quote and every text that holds it
is cut down. For the key itself this comes to an even number of texts of four characters at least in a row
before it. -/
theorem key_unseen_iff {file : SourceFile} {text lead literal rest : List Char} {number : Nat}
    {front back : List (List Char × List Char)} (h : HoldsKey lead front literal rest back)
    (hline : (Text.lines text)[number]?.map Text.trim =
      some (written lead (front ++ (literal, rest) :: back)))
    (hexempt : isExempt (written lead (front ++ (literal, rest) :: back)) = false) (isFile : FileTest) :
    ∃ findings, analyzer.analyze isFile file text = .ok findings ∧ ∃ finding ∈ findings,
      finding.id = findingId analyzer.id "hardcoded-secret" file.relative ((number + 1 : Nat) : Int) ∧
      finding.snippet.toList =
        Text.join ['"'] (lead :: cut (pieces (front ++ (literal, rest) :: back))) ∧
      (¬literal <:+: finding.snippet.toList ↔ ¬literal <:+: lead ∧ ∀ before piece behind,
        pieces (front ++ (literal, rest) :: back) = before ++ piece :: behind → literal <:+: piece →
          IsCut before piece behind) ∧
      (IsCut (pieces front) literal (rest :: pieces back) ↔ Even (longRow (pieces front))) := by
  obtain ⟨line, hline, htrim⟩ := Option.map_eq_some_iff.1 hline
  have hdraft : hardcodedSecret (number + 1) (Text.trim line) ∈ rules text := by
    refine List.mem_flatMap.2 ⟨(line, number), List.mem_zipIdx_iff_getElem?.2 hline, ?_⟩
    dsimp only
    rw [lineDrafts, htrim, if_neg (by rw [hexempt]; exact Bool.false_ne_true),
      if_pos (isSome_secretIndex? h)]
    exact List.mem_append_left _ List.mem_cons_self
  have hquote : '"' ∉ literal := by
    intro hmem
    have hletter := h.letters '"' hmem
    exact absurd hletter (by decide)
  have hredact : redact (Text.trim line) =
      Text.join ['"'] (lead :: cut (pieces (front ++ (literal, rest) :: back))) := by
    rw [htrim, written_eq, redact_join h.plain]
  have hsnippet : (hardcodedSecret (number + 1) (Text.trim line)).snippet.toList = _ :=
    String.toList_ofList.trans hredact
  have hlong := h.long
  refine ⟨_, rfl, _, List.mem_map_of_mem hdraft, rfl, hsnippet, ?_, ?_⟩
  · rw [Draft.finding, hsnippet, infix_join_cut_iff (by omega) hquote, not_or]
    refine and_congr_right fun _ => ?_
    constructor
    · intro hnone before piece behind heq hin
      by_contra hkept
      exact hnone ⟨before, piece, behind, heq, hkept, hin⟩
    · rintro hall ⟨before, piece, behind, heq, hkept, hin⟩
      exact hkept (hall before piece behind heq hin)
  · exact ⟨fun hcut => hcut.even, fun heven =>
      ⟨List.cons_ne_nil _ _, by omega, heven⟩⟩

/-! ### A key behind a short text

The quotes of the short text are passed over in turn, so the text between it and the key is cut down in the
key's place. -/

def shiftedFile : SourceFile := ⟨⟨1, ["A.kt"]⟩, "A.kt", 55, 0, none⟩

def shiftedText : String := "val apiKey = of(\"ab\", other, \"ABCDEFGHIJ1234567890\")\n"

theorem holdsKey_shifted : HoldsKey "val apiKey = of(".toList [("ab".toList, ", other, ".toList)]
    "ABCDEFGHIJ1234567890".toList ")".toList [] where
  plain := by decide +kernel
  letters := List.all_eq_true.1 (by decide +kernel)
  long := by decide +kernel
  matched := ⟨_, List.mem_of_getElem? (i := 0) rfl, "val ".toList,
    "apiKey = of(\"ab\", other, ".toList, by decide +kernel, by decide +kernel⟩

theorem key_unseen_iff_shifted : ¬Even (longRow (pieces [("ab".toList, ", other, ".toList)])) ∧
    ∃ findings, analyzer.analyze (fun _ => .ok false) shiftedFile shiftedText.toList = .ok findings ∧
      ∃ finding ∈ findings, finding.id = "security-hardcoded-secret-A.kt-1" ∧
        finding.snippet = "val apiKey = of(\"ab\", ot****\"ABCDEFGHIJ1234567890\")" ∧
        "ABCDEFGHIJ1234567890".toList <:+: finding.snippet.toList := by
  have hodd : ¬Even (longRow (pieces [("ab".toList, ", other, ".toList)])) := by decide +kernel
  obtain ⟨findings, hfindings, finding, hfinding, hid, hsnippet, hunseen, hcut⟩ :=
    @key_unseen_iff shiftedFile shiftedText.toList _ _ _ 0 _ _ holdsKey_shifted (by decide +kernel)
      (by decide +kernel) (fun _ => .ok false)
  refine ⟨hodd, findings, hfindings, finding, hfinding, hid.trans (by decide +kernel), ?_, ?_⟩
  · rw [← String.toList_inj, hsnippet]
    decide +kernel
  · by_contra hhidden
    exact hodd (hcut.1 ((hunseen.1 hhidden).2 _ _ _ rfl (List.infix_refl _)))

/-! ### Addresses in quotes -/

/-- The hosts that an address may name without a finding: the machine itself. -/
def localHosts : List String := ["localhost", "127.0.0.1", "10.0.2.2"]

/-- How an address without encryption starts. -/
def scheme : List Char := "http://".toList

/-- A host, with what may follow it in an address: nothing, a port or a path. -/
structure Addresses (host rest : List Char) : Prop where
  ne : host ≠ []
  letters : ∀ c ∈ host, (Text.isWord c || c == '.' || c == '-') = true
  led : Source.LedBy (fun c => c == ':' || c == '/') rest
  plain : Free isQuote rest

/-- A line with nothing in quotes but an address. -/
structure Quotes (lead address trail line : Line) : Prop where
  line_eq : line = lead ++ '"' :: (scheme ++ address ++ '"' :: trail)
  before : Free isQuote lead
  behind : Free isQuote trail

/-- An address without encryption is reported on the line with an index. -/
def Reported (findings : List Finding) (index : Nat) : Prop :=
  ∃ finding ∈ findings, finding.line = index + 1 ∧ finding.title = "Cleartext HTTP URL"

theorem cleartextUrl_eq : cleartextUrl = .seq (.char isQuote) (.seq (chars scheme)
    (.seq (ahead false (texts localHosts))
      (.seq (oneOrMore (.char (!isQuote ·))) (.char isQuote)))) := by
  have hquote : (fun c : Char => "\"'".toList.contains c) = isQuote := by
    funext c
    simp [isQuote, Bool.or_comm]
  have hnone : (fun c : Char => !"\"'".toList.contains c) = (!isQuote ·) := by
    rw [← hquote]
  rw [← hnone, ← hquote]
  rfl

section Places

variable {cursor : Cursor} {lead address trail host rest line : Line}

/-- Where a match starts, an address in quotes follows that does not start with one of the exempt hosts. -/
theorem ways_cleartextUrl_ne_nil_iff : cleartextUrl.ways cursor ≠ [] ↔
    ∃ opening address closing rest, cursor.after = opening :: (scheme ++ (address ++ closing :: rest)) ∧
      isQuote opening = true ∧ isQuote closing = true ∧ address ≠ [] ∧ Free isQuote address ∧
      ∀ name ∈ localHosts, ¬name.toList <+: address := by
  have hhosts : localHosts ≠ [] := by decide
  rw [cleartextUrl_eq]
  constructor
  · intro hways
    obtain ⟨finish, hfinish⟩ := List.exists_mem_of_ne_nil _ hways
    obtain ⟨first, hfirst, hbehind⟩ := List.mem_flatMap.1 hfinish
    obtain ⟨second, hsecond, hbehind'⟩ := List.mem_flatMap.1 hbehind
    obtain ⟨third, hthird, hend⟩ := List.mem_flatMap.1 hbehind'
    obtain ⟨hnone, rfl⟩ := mem_ways_ahead_false.1 hthird
    obtain ⟨opening, hopening, hopens, -⟩ := passes_of_mem_ways_char hfirst
    obtain ⟨passed, hpassed, hreads⟩ := exists_passes (isPlain_chars scheme) hsecond
    obtain rfl := language_chars_iff.1 hpassed
    obtain ⟨_, ⟨address, _, rfl, haddress, closing, rfl, hclosing⟩, hquoted⟩ :=
      @exists_passes (.seq (oneOrMore (.char (!isQuote ·))) (.char isQuote)) rfl _ _ hend
    obtain ⟨hne, hfree⟩ := language_oneOrMore_iff.1 haddress
    have hafter : third.after = address ++ closing :: finish.after := by
      rw [hquoted.after, List.append_assoc, List.singleton_append]
    refine ⟨opening, address, closing, finish.after, ?_, hopening, hclosing, hne,
      fun c hc => by simpa using hfree c hc, ?_⟩
    · rw [hopens.after, hreads.after, hafter, List.singleton_append]
    · rintro name hname ⟨more, rfl⟩
      rw [List.append_assoc] at hafter
      obtain ⟨way, hway, -⟩ := exists_way (by decide : (texts localHosts).isPlain = true)
        ((language_texts_iff hhosts).2 ⟨name, hname, rfl⟩) hafter
      exact List.ne_nil_of_mem hway hnone
  · rintro ⟨opening, address, closing, rest, hafter, hopening, hclosing, hne, hfree, hnone⟩
    obtain ⟨first, hfirst, hopens⟩ := @exists_way (.char isQuote) rfl cursor [opening] _ ⟨opening, rfl, hopening⟩
      hafter
    obtain ⟨second, hsecond, hreads⟩ := exists_way (isPlain_chars scheme) (language_chars_iff.2 rfl)
      (List.append_cancel_left (hopens.after.symm.trans hafter) : first.after = scheme ++ _)
    have hrest : second.after = address ++ closing :: rest := List.append_cancel_left
      (hreads.after.symm.trans (List.append_cancel_left (hopens.after.symm.trans hafter)))
    have hexempt : (texts localHosts).ways second = [] := by
      by_contra hways
      obtain ⟨way, hway⟩ := List.exists_mem_of_ne_nil _ hways
      obtain ⟨_, hname, hpasses⟩ := exists_passes (by decide : (texts localHosts).isPlain = true) hway
      obtain ⟨name, hmem, rfl⟩ := (language_texts_iff hhosts).1 hname
      have hplain : ∀ name ∈ localHosts, Free isQuote name.toList := by decide
      refine hnone name hmem ((Text.prefix_append_cons_iff (c := closing) fun hquote => ?_).1
        ⟨way.after, hpasses.after.symm.trans hrest⟩)
      exact Bool.false_ne_true ((hplain name hmem closing hquote).symm.trans hclosing)
    obtain ⟨finish, hfinish, -⟩ := @exists_way (.seq (oneOrMore (.char (!isQuote ·))) (.char isQuote)) rfl second
      (address ++ [closing]) rest ⟨address, [closing], rfl,
        language_oneOrMore_iff.2 ⟨hne, fun c hc => by rw [hfree c hc]; rfl⟩, closing, rfl, hclosing⟩
      (by rw [hrest, List.append_assoc, List.singleton_append])
    exact List.ne_nil_of_mem (List.mem_flatMap.2 ⟨first, hfirst, List.mem_flatMap.2 ⟨second, hsecond,
      List.mem_flatMap.2 ⟨second, mem_ways_ahead_false.2 ⟨hexempt, rfl⟩, hfinish⟩⟩⟩)

/-- In a line with one pair of quotes, what stands between them tells whether an address is found. -/
theorem occursIn_cleartextUrl_iff (hline : Quotes lead address trail line) (hplain : Free isQuote address) :
    cleartextUrl.occursIn line = true ↔
      address ≠ [] ∧ ∀ name ∈ localHosts, ¬name.toList <+: address := by
  obtain ⟨rfl, hlead, htrail⟩ := hline
  have hcount : ∀ {text : List Char}, Free isQuote text ↔ text.countP isQuote = 0 := by
    intro text
    simp [List.countP_eq_zero, Free]
  constructor
  · intro hoccurs
    obtain ⟨passed, rest, hafter, hways⟩ := (isSome_searchFrom?_iff rfl).1 hoccurs
    obtain ⟨opening, other, closing, more, hrest, hopening, hclosing, hne, hother, hnone⟩ :=
      ways_cleartextUrl_ne_nil_iff.1 hways
    rw [Cursor.after_forward hafter] at hrest
    have hsame : lead ++ '"' :: (scheme ++ address ++ '"' :: trail) =
        passed ++ opening :: (scheme ++ (other ++ closing :: more)) := by rw [← hrest]; exact hafter
    -- There are two quotes on both sides, so there is none in front of the match.
    have hpassed : Free isQuote passed := by
      have hquotes := congrArg (List.countP isQuote) hsame
      simp only [List.countP_append, List.countP_cons, hcount.1 hlead, hcount.1 hplain, hcount.1 htrail,
        hopening, hclosing, if_true, show isQuote '"' = true from rfl] at hquotes
      exact hcount.2 (by omega)
    obtain ⟨-, -, hinside⟩ := hlead.append_cons_inj hpassed rfl hopening hsame
    rw [List.append_assoc] at hinside
    obtain ⟨rfl, -⟩ := hplain.append_cons_inj hother rfl hclosing (List.append_cancel_left hinside)
    exact ⟨hne, hnone⟩
  · rintro ⟨hne, hnone⟩
    refine (isSome_searchFrom?_iff rfl).2 ⟨lead, _, rfl, ways_cleartextUrl_ne_nil_iff.2
      ⟨'"', address, '"', trail, ?_, rfl, rfl, hne, hplain, hnone⟩⟩
    rw [← List.append_assoc]
    exact Cursor.after_forward rfl

/-- Which host an address names can be told from its beginning. -/
theorem prefix_host_iff (h : Addresses host rest) {name : String} (hname : name ∈ localHosts) :
    name.toList <+: host ++ rest ↔ name.toList <+: host := by
  cases rest with
  | nil => rw [List.append_nil]
  | cons c rest =>
    have hmarks : ∀ name ∈ localHosts, ':' ∉ name.toList ∧ '/' ∉ name.toList := by decide
    refine Text.prefix_append_cons_iff ?_
    have hled : (c == ':' || c == '/') = true := h.led
    rcases Bool.or_eq_true_iff.1 hled with hc | hc
    · exact beq_iff_eq.1 hc ▸ (hmarks name hname).1
    · exact beq_iff_eq.1 hc ▸ (hmarks name hname).2

theorem free_address (h : Addresses host rest) : Free isQuote (host ++ rest) := by
  refine Free.append (fun c hc => Bool.eq_false_iff.2 fun hquote => ?_) h.plain
  have hletter := h.letters c hc
  have hmarks : Free (fun d => Text.isWord d || d == '.' || d == '-') "'\"".toList := by decide
  exact Bool.eq_false_iff.1 (hmarks c (List.contains_iff_mem.1 hquote)) hletter

theorem reported_iff_occursIn {text : List Char} {index : Nat} (hline : (Text.lines text)[index]? = some line)
    (hexempt : isExempt (Text.trim line) = false) (file : SourceFile) :
    Reported ((rules text).map (·.finding analyzer.id analyzer.category file)) index ↔
      cleartextUrl.occursIn (Text.trim line) = true := by
  have hdrafts : ∀ {draft : Draft}, draft ∈ rules text ∧ draft.line = index + 1 ↔
      draft ∈ lineDrafts (index + 1) (Text.trim line) :=
    mem_flatMap_zipIdx_iff (fun _ _ _ hdraft => (Security.about hdraft).number) hline
  rw [Reported, exists_finding_iff]
  simp only [← and_assoc, hdrafts]
  rw [lineDrafts, if_neg (by rw [hexempt]; exact Bool.false_ne_true)]
  constructor
  · rintro ⟨draft, hdraft, htitle⟩
    rcases List.mem_append.1 hdraft with hdraft | hdraft
    · split at hdraft
      · obtain rfl := List.mem_singleton.1 hdraft
        exact absurd htitle (show ¬"Hard-coded Secret" = "Cleartext HTTP URL" by decide)
      · exact absurd hdraft List.not_mem_nil
    · split at hdraft
      · assumption
      · exact absurd hdraft List.not_mem_nil
  · intro hoccurs
    rw [if_pos hoccurs]
    exact ⟨_, List.mem_append_right _ List.mem_cons_self, rfl⟩

end Places

/-- An address without encryption is reported exactly if its host does not start with one of the exempt hosts.
So the hosts that are passed over are the exempt ones exactly if the host goes on behind none of them. -/
theorem reported_iff_unprefixed {file : SourceFile} {text lead host rest trail line : List Char} {index : Nat}
    (hline : (Text.lines text)[index]? = some line) (hexempt : isExempt (Text.trim line) = false)
    (hquotes : Quotes lead (host ++ rest) trail line) (hhost : Addresses host rest) (isFile : FileTest) :
    ∃ findings, analyzer.analyze isFile file text = .ok findings ∧
      (Reported findings index ↔ ∀ name ∈ localHosts, ¬name.toList <+: host) ∧
      ((Reported findings index ↔ ∀ name ∈ localHosts, host ≠ name.toList) ↔
        ∀ name ∈ localHosts, name.toList <+: host → host = name.toList) := by
  obtain ⟨front, back, hfront, hback, htrim⟩ := Text.exists_trim_eq (by decide : Text.isBlank '"' = false)
    (by decide : Text.isBlank '"' = false) lead (scheme ++ (host ++ rest)) trail
  rw [← hquotes.line_eq] at htrim
  have htrimmed : Quotes front (host ++ rest) back (Text.trim line) :=
    ⟨htrim, fun c hc => hquotes.before c (hfront.mem hc), fun c hc => hquotes.behind c (hback.mem hc)⟩
  have hreported : Reported ((rules text).map (·.finding analyzer.id analyzer.category file)) index ↔
      ∀ name ∈ localHosts, ¬name.toList <+: host := by
    rw [reported_iff_occursIn hline hexempt, occursIn_cleartextUrl_iff htrimmed (free_address hhost),
      and_iff_right (List.append_ne_nil_of_left_ne_nil hhost.ne rest)]
    exact forall₂_congr fun name hname => not_congr (prefix_host_iff hhost hname)
  refine ⟨_, rfl, hreported, (iff_congr hreported Iff.rfl).trans ?_⟩
  have hapart : ∀ name ∈ localHosts, ∀ other ∈ localHosts, name.toList <+: other.toList → other = name := by
    decide
  constructor
  · intro hclaim name hname hbegins
    by_contra hne
    refine hclaim.2 (fun other hother heq => ?_) name hname hbegins
    subst heq
    exact hne (congrArg String.toList (hapart name hname other hother hbegins))
  · intro hexact
    exact ⟨fun hnone name hname heq => hnone name hname (heq ▸ List.prefix_refl _),
      fun hnone name hname hbegins => hnone name hname (hexact name hname hbegins)⟩

/-! ### An address in the local network whose beginning is that of an exempt host -/

def networkFile : SourceFile := ⟨⟨1, ["Api.kt"]⟩, "Api.kt", 55, 0, none⟩

def networkText : List Char := "class Api \x7b\n    val base = \"http://10.0.2.200:8080/v1\" // staging\n\x7d\n".toList

theorem reported_iff_unprefixed_network : (∀ name ∈ localHosts, "10.0.2.200".toList ≠ name.toList) ∧
    ∃ findings, analyzer.analyze (fun _ => .ok false) networkFile networkText = .ok findings ∧
      ¬Reported findings 1 := by
  have hquotes : Quotes "    val base = ".toList ("10.0.2.200".toList ++ ":8080/v1".toList) " // staging".toList
      "    val base = \"http://10.0.2.200:8080/v1\" // staging".toList :=
    ⟨by decide, by decide, by decide⟩
  obtain ⟨findings, hfindings, hreported, -⟩ := @reported_iff_unprefixed networkFile networkText _ _ _ _ _ 1
    (by decide) (by decide) hquotes ⟨by decide, List.all_eq_true.1 (by decide), by decide, by decide⟩
    (fun _ => .ok false)
  exact ⟨by decide, findings, hfindings, fun h => hreported.1 h "10.0.2.2" (by decide) (by decide)⟩

end KotlinAudit.Rule.Security
