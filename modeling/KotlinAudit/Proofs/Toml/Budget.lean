import KotlinAudit.Proofs.Outcome
import KotlinAudit.Proofs.Pattern.Ways
import KotlinAudit.Toml.Document
import Mathlib.Data.List.TakeDrop

/-! Reading comes to the end of what is written. Every step leaves an end of its text, so that no budget
is used up: with any larger one the same is read. How deep values lie within each other is the only bound
that a text can come to. -/
namespace KotlinAudit.Toml

variable {α β : Type} {text more : List Char}

/-! ### What a step leaves -/

/-- What is left behind a step is an end of its text. -/
def Leaves (text : List Char) (step : Except Fault (α × List Char)) : Prop :=
  ∀ value rest, step = .ok (value, rest) → rest <:+ text

namespace Leaves

variable {step : Except Fault (α × List Char)}

theorem error (fault : Fault) : Leaves text (.error fault : Step α) := nofun

theorem ok {value : α} {rest : List Char} (h : rest <:+ text) : Leaves text (.ok (value, rest)) := by
  rintro _ _ ⟨⟩
  exact h

theorem mono (h : Leaves text step) (hmore : text <:+ more) : Leaves more step :=
  fun value rest hstep => (h value rest hstep).trans hmore

theorem map (h : Leaves text step) {change : α × List Char → β × List Char}
    (hchange : ∀ value rest, (change (value, rest)).2 <:+ rest) : Leaves text (step.map change) := by
  intro value rest hmap
  obtain ⟨⟨first, between⟩, hstep, heq⟩ := Outcome.map_eq_ok.1 hmap
  have hrest := hchange first between
  rw [heq] at hrest
  exact hrest.trans (h first between hstep)

theorem map_fst (h : Leaves text step) (change : α → β) :
    Leaves text (step.map fun (value, rest) => (change value, rest)) :=
  h.map fun _ rest => List.suffix_refl rest

theorem bind (h : Leaves text step) {next : α × List Char → Except Fault (β × List Char)}
    (hnext : ∀ value rest, Leaves rest (next (value, rest))) : Leaves text (step >>= next) := by
  intro result last hbind
  obtain ⟨⟨value, rest⟩, hstep, hlast⟩ := Outcome.bind_eq_ok.1 hbind
  exact (hnext value rest result last hlast).trans (h value rest hstep)

/-- What is made of a value that is there reads nothing. -/
theorem bind_of {found : Except Fault α} {next : α → Except Fault (β × List Char)}
    (h : ∀ value, Leaves text (next value)) : Leaves text (found >>= next) := by
  intro result last hbind
  obtain ⟨value, -, hlast⟩ := Outcome.bind_eq_ok.1 hbind
  exact h value result last hlast

end Leaves

/-! ### Quoted texts -/

theorem literal_leaves (text : List Char) : Leaves text (literal text) := by
  induction text with
  | nil => exact .error _
  | cons c rest ih =>
    rw [literal]
    split_ifs
    · exact .ok (List.suffix_cons c rest)
    · exact .error _
    · exact (ih.mono (List.suffix_cons c rest)).map_fst _

theorem longLiteral_leaves (text : List Char) : Leaves text (longLiteral text) := by
  fun_induction longLiteral text with
  | case1 => exact .error _
  | case2 rest => exact .ok (List.suffix_append ['\'', '\'', '\''] rest)
  | case3 => exact .error _
  | case4 c rest _ _ ih => exact (ih.mono (List.suffix_cons c rest)).map_fst _

theorem basic_leaves (text : List Char) : Leaves text (basic text) := by
  fun_induction basic text with
  | case1 => exact .error _
  | case2 c rest => exact .ok (List.suffix_cons c rest)
  | case3 => exact .error _
  | case4 c rest _ _ found count _ ih =>
    exact (ih.mono ((List.drop_suffix count rest).trans (List.suffix_cons c rest))).map_fst _
  | case5 => exact .error _
  | case6 c rest _ _ _ ih => exact (ih.mono (List.suffix_cons c rest)).map_fst _

theorem suffix_of_continued {rest : List Char} (h : continued? text = some rest) : rest <:+ text := by
  unfold continued? at h
  split at h
  · next after hafter =>
    obtain rfl := Option.some.inj h
    have hblank : '\n' :: after <:+ text := hafter ▸ List.dropWhile_suffix _
    exact ((List.dropWhile_suffix _).trans (List.suffix_cons '\n' after)).trans hblank
  · cases h

theorem longBasic_leaves (text : List Char) : Leaves text (longBasic text) := by
  fun_induction longBasic text with
  | case1 => exact .error _
  | case2 rest => exact .ok (List.suffix_append ['"', '"', '"'] rest)
  | case3 c rest _ _ after hafter ih =>
    exact ih.mono ((suffix_of_continued hafter).trans (List.suffix_cons c rest))
  | case4 => exact .error _
  | case5 c rest _ _ _ found count _ ih =>
    exact (ih.mono ((List.drop_suffix count rest).trans (List.suffix_cons c rest))).map_fst _
  | case6 => exact .error _
  | case7 c rest _ _ _ ih => exact (ih.mono (List.suffix_cons c rest)).map_fst _

theorem afterOpening_suffix (text : List Char) : afterOpening text <:+ text := by
  unfold afterOpening
  split
  · exact List.suffix_cons _ _
  · exact List.suffix_refl _

theorem withClosing_suffix (quote : Char) (found rest : List Char) :
    (withClosing quote (found, rest)).2 <:+ rest := by
  unfold withClosing
  split
  · next c d others heq =>
    cases heq
    split_ifs
    · exact List.suffix_append [c, d] others
    · exact List.suffix_cons c _
    · exact List.suffix_refl _
  · next c heq =>
    cases heq
    split_ifs
    · exact List.nil_suffix
    · exact List.suffix_refl _
  · exact List.suffix_refl _

theorem quoted_leaves {step : Step (List Char)} (h : quoted? text = some step) : Leaves text step := by
  unfold quoted? at h
  split at h
  · next rest =>
    obtain rfl := Option.some.inj h
    refine Leaves.map ?_ (withClosing_suffix _)
    exact (longLiteral_leaves _).mono
      ((afterOpening_suffix rest).trans (List.suffix_append ['\'', '\'', '\''] rest))
  · next rest =>
    obtain rfl := Option.some.inj h
    refine Leaves.map ?_ (withClosing_suffix _)
    exact (longBasic_leaves _).mono
      ((afterOpening_suffix rest).trans (List.suffix_append ['"', '"', '"'] rest))
  · next rest _ =>
    obtain rfl := Option.some.inj h
    exact (literal_leaves rest).mono (List.suffix_cons _ rest)
  · next rest _ =>
    obtain rfl := Option.some.inj h
    exact (basic_leaves rest).mono (List.suffix_cons _ rest)
  · cases h

/-! ### Plain values -/

theorem suffix_of_matchStart {pattern : Pattern} {found : Cursor} (h : pattern.matchStart? text = some found) :
    found.after <:+ text := by
  rw [Pattern.matchStart?, Pattern.firstEnd_some] at h
  obtain ⟨passed, hpasses⟩ := Pattern.reaches_of_mem_ways (List.mem_of_head? h)
  exact ⟨passed, hpasses.after.symm⟩

theorem suffix_of_word? {words : List (String × Json)} {found : Setting × List Char}
    (h : word? words text = some found) : found.2 <:+ text := by
  obtain ⟨⟨word, value⟩, -, rfl⟩ := Option.map_eq_some_iff.1 h
  exact List.drop_suffix _ _

theorem plain_leaves (text : List Char) : Leaves text (plain text) := by
  unfold plain
  split
  · next found hword => exact .ok (suffix_of_word? hword)
  split
  · next found hdate =>
    split_ifs
    · exact .ok (suffix_of_matchStart hdate)
    · exact .error _
  split
  · next found htime => exact .ok (suffix_of_matchStart htime)
  · next found _ hbased => exact .ok (suffix_of_matchStart hbased)
  · next found _ _ hnumber =>
    have hrest := suffix_of_matchStart hnumber
    split_ifs
    · intro value rest hinteger
      obtain ⟨number, -, heq⟩ := Outcome.map_eq_ok.1 hinteger
      cases heq
      exact hrest
    · dsimp only
      split
      · exact .ok hrest
      · exact .error _
  · split
    · next found hword => exact .ok (suffix_of_word? hword)
    · exact .error _

/-! ### Keys and what stands between values -/

theorem afterSpace_suffix (text : List Char) : afterSpace text <:+ text := List.dropWhile_suffix _

theorem keyPart_leaves (text : List Char) : Leaves text (keyPart text) := by
  unfold keyPart
  split
  · next rest => exact ((literal_leaves rest).mono (List.suffix_cons _ rest)).map_fst _
  · next rest => exact ((basic_leaves rest).mono (List.suffix_cons _ rest)).map_fst _
  · rw [List.span_eq_takeWhile_dropWhile]
    split
    · exact .error _
    · next name rest _ heq =>
      cases heq
      exact .ok (List.dropWhile_suffix _)

theorem keyFrom_leaves (budget : Nat) (text : List Char) : Leaves text (keyFrom budget text) := by
  induction budget generalizing text with
  | zero => exact .error _
  | succ budget ih =>
    rw [keyFrom]
    refine (keyPart_leaves text).bind fun name rest => ?_
    dsimp only
    split
    · next after hdot =>
      have hafter : after <:+ rest := (List.suffix_cons '.' after).trans (hdot ▸ afterSpace_suffix rest)
      refine ((ih _).mono ((afterSpace_suffix after).trans hafter)).bind fun names last => ?_
      exact .ok (List.suffix_refl last)
    · exact .ok (afterSpace_suffix rest)

theorem key_leaves (text : List Char) : Leaves text (key text) := keyFrom_leaves _ text

theorem suffix_of_comment {line rest : List Char} (h : afterComment ('#' :: line) = .ok rest) :
    rest <:+ line := by
  rw [afterComment, List.span_eq_takeWhile_dropWhile] at h
  dsimp only at h
  split_ifs at h
  cases h
  exact List.dropWhile_suffix _

theorem suffix_of_afterComment {rest : List Char} (h : afterComment text = .ok rest) : rest <:+ text := by
  by_cases hcomment : ∃ line, text = '#' :: line
  · obtain ⟨line, rfl⟩ := hcomment
    exact (suffix_of_comment h).trans (List.suffix_cons '#' line)
  · rw [afterComment.eq_2 text fun line heq => hcomment ⟨line, heq⟩] at h
    exact Except.ok.inj h ▸ List.suffix_refl _

theorem suffix_of_betweenFrom {budget : Nat} {text rest : List Char} (h : betweenFrom budget text = .ok rest) :
    rest <:+ text := by
  induction budget generalizing text with
  | zero =>
    cases h
    exact List.suffix_refl _
  | succ budget ih =>
    have hbreaks : text.dropWhile isSpaceOrBreak <:+ text := List.dropWhile_suffix _
    rw [betweenFrom] at h
    split at h
    · next comment hcomment =>
      obtain ⟨after, hafter, h⟩ := Outcome.bind_eq_ok.1 h
      have hline := (suffix_of_comment hafter).trans (List.suffix_cons '#' comment)
      exact (ih h).trans (hline.trans (hcomment ▸ hbreaks))
    · cases h
      exact hbreaks

/-- What is read behind blanks and comments. -/
theorem Leaves.bind_between {next : List Char → Except Fault (β × List Char)}
    (h : ∀ rest, rest <:+ text → Leaves text (next rest)) : Leaves text (between text >>= next) := by
  intro result last hbind
  obtain ⟨rest, hbetween, hlast⟩ := Outcome.bind_eq_ok.1 hbind
  exact h rest (suffix_of_betweenFrom hbetween) result last hlast

/-! ### Values -/

mutual

theorem valueFrom_leaves : ∀ (budget room : Nat) (text : List Char), Leaves text (valueFrom budget room text)
  | 0, _, _ => by
    rw [valueFrom]
    exact .error _
  | budget + 1, room, text => by
    unfold valueFrom
    split
    · next step _ hquoted =>
      exact (quoted_leaves hquoted).map_fst fun found => Setting.plain (.text (String.ofList found))
    · next rest _ =>
      refine .mono ?_ (List.suffix_cons '[' rest)
      split_ifs
      · exact .error _
      · refine .bind_between fun first hfirst => ?_
        exact ((itemsFrom_leaves budget _ first).mono hfirst).bind fun items last =>
          .ok (List.suffix_refl last)
    · next rest _ =>
      refine .mono ?_ (List.suffix_cons '\x7b' rest)
      split_ifs
      · exact .error _
      · have hspace := afterSpace_suffix rest
        split
        · next last hclosed => exact .ok ((List.suffix_cons '\x7d' last).trans (hclosed ▸ hspace))
        · exact ((fieldsFrom_leaves budget _ [] [] _).mono hspace).bind fun table last =>
            .ok (List.suffix_refl last)
    · exact plain_leaves _

theorem itemsFrom_leaves : ∀ (budget room : Nat) (text : List Char), Leaves text (itemsFrom budget room text)
  | 0, _, _ => by
    rw [itemsFrom]
    exact .error _
  | budget + 1, room, text => by
    unfold itemsFrom
    split
    · next heq => cases heq
    · next rest _ => exact .ok (List.suffix_cons ']' rest)
    · next heq _ =>
      cases heq
      refine (valueFrom_leaves _ _ _).bind fun item rest => ?_
      refine .bind_between fun after hafter => ?_
      split
      · next last => exact .ok ((List.suffix_cons ']' last).trans hafter)
      · next others =>
        refine .mono (.bind_between fun first hfirst => ?_) ((List.suffix_cons ',' others).trans hafter)
        exact ((itemsFrom_leaves _ _ first).mono hfirst).bind fun items last =>
          .ok (List.suffix_refl last)
      · exact .error _

theorem pairFrom_leaves : ∀ (budget room : Nat) (text : List Char), Leaves text (pairFrom budget room text)
  | 0, _, _ => by
    rw [pairFrom]
    exact .error _
  | budget + 1, room, text => by
    unfold pairFrom
    refine (key_leaves text).bind fun path rest => ?_
    dsimp only
    split
    · next value =>
      have hvalue := (afterSpace_suffix value).trans (List.suffix_cons '=' value)
      exact ((valueFrom_leaves budget room _).mono hvalue).bind fun found last => .ok (List.suffix_refl last)
    · exact .error _

theorem fieldsFrom_leaves : ∀ (budget room : Nat) (frozen : List Key) (table : Table) (text : List Char),
    Leaves text (fieldsFrom budget room frozen table text)
  | 0, _, _, _, _ => by
    rw [fieldsFrom]
    exact .error _
  | budget + 1, room, frozen, table, text => by
    unfold fieldsFrom
    refine (pairFrom_leaves budget room text).bind fun pair rest => ?_
    dsimp only
    split
    · exact .error _
    · refine .bind_of fun added => ?_
      have hspace := afterSpace_suffix rest
      split
      · next last hclosed => exact .ok ((List.suffix_cons '\x7d' last).trans (hclosed ▸ hspace))
      · next others hcomma =>
        have hothers := (List.suffix_cons ',' others).trans (hcomma ▸ hspace)
        exact (fieldsFrom_leaves budget room _ added _).mono ((afterSpace_suffix others).trans hothers)
      · exact .error _

end

/-! ### Larger budgets -/

/-- What one more of the budget does not change, no larger budget changes. -/
theorem eq_of_budget (read : Nat → α) {least : Nat}
    (h : ∀ budget, least ≤ budget → read (budget + 1) = read budget) {budget : Nat}
    (hbudget : least ≤ budget) : read budget = read least := by
  induction hbudget with
  | refl => rfl
  | step hle ih => exact (h _ hle).trans ih

mutual

theorem valueFrom_succ : ∀ (budget room : Nat) (text : List Char), 2 * text.length + 1 ≤ budget →
    valueFrom (budget + 1) room text = valueFrom budget room text
  | 0, _, _, h => absurd h (Nat.not_succ_le_zero _)
  | budget + 1, room, text, h => by
    rw [valueFrom.eq_def, valueFrom.eq_def (budget + 1)]
    dsimp only
    split
    · rfl
    · next rest _ =>
      split_ifs
      · rfl
      · refine Outcome.bind_congr_of_ok fun first hfirst => ?_
        have hlength := (suffix_of_betweenFrom hfirst).length_le
        rw [List.length_cons] at h
        rw [itemsFrom_succ budget _ first (by omega)]
    · next rest _ =>
      split_ifs
      · rfl
      · have hlength := (afterSpace_suffix rest).length_le
        rw [List.length_cons] at h
        split
        · rfl
        · rw [fieldsFrom_succ budget _ [] [] _ (by omega)]
    · rfl

theorem itemsFrom_succ : ∀ (budget room : Nat) (text : List Char), 2 * text.length + 2 ≤ budget →
    itemsFrom (budget + 1) room text = itemsFrom budget room text
  | 0, _, _, h => absurd h (Nat.not_succ_le_zero _)
  | budget + 1, room, text, h => by
    unfold itemsFrom
    split
    · next heq => cases heq
    · rfl
    · next heq _ =>
      cases heq
      rw [valueFrom_succ budget _ _ (by omega)]
      refine Outcome.bind_congr_of_ok fun ⟨item, rest⟩ hitem => ?_
      have hlength := (valueFrom_leaves budget _ _ item rest hitem).length_le
      refine Outcome.bind_congr_of_ok fun after hafter => ?_
      have hbetween := (suffix_of_betweenFrom hafter).length_le
      split
      · rfl
      · next others =>
        refine Outcome.bind_congr_of_ok fun first hfirst => ?_
        have hothers := (suffix_of_betweenFrom hfirst).length_le
        rw [List.length_cons] at hbetween
        rw [itemsFrom_succ budget _ first (by omega)]
      · rfl

theorem pairFrom_succ : ∀ (budget room : Nat) (text : List Char), 2 * text.length + 1 ≤ budget →
    pairFrom (budget + 1) room text = pairFrom budget room text
  | 0, _, _, h => absurd h (Nat.not_succ_le_zero _)
  | budget + 1, room, text, h => by
    rw [pairFrom.eq_def, pairFrom.eq_def (budget + 1)]
    dsimp only
    refine Outcome.bind_congr_of_ok fun ⟨path, rest⟩ hkey => ?_
    have hlength := (key_leaves text path rest hkey).length_le
    dsimp only
    split
    · next value =>
      have hvalue := (afterSpace_suffix value).length_le
      rw [List.length_cons] at hlength
      rw [valueFrom_succ budget room _ (by omega)]
    · rfl

theorem fieldsFrom_succ : ∀ (budget room : Nat) (frozen : List Key) (table : Table) (text : List Char),
    2 * text.length + 2 ≤ budget →
      fieldsFrom (budget + 1) room frozen table text = fieldsFrom budget room frozen table text
  | 0, _, _, _, _, h => absurd h (Nat.not_succ_le_zero _)
  | budget + 1, room, frozen, table, text, h => by
    rw [fieldsFrom.eq_def, fieldsFrom.eq_def (budget + 1)]
    dsimp only
    rw [pairFrom_succ budget room text (by omega)]
    refine Outcome.bind_congr_of_ok fun ⟨pair, rest⟩ hpair => ?_
    have hlength := (pairFrom_leaves budget room text pair rest hpair).length_le
    dsimp only
    split
    · rfl
    · refine Outcome.bind_congr_of_ok fun added _ => ?_
      have hspace := (afterSpace_suffix rest).length_le
      split
      · rfl
      · next others hcomma =>
        have hothers := (afterSpace_suffix others).length_le
        rw [hcomma, List.length_cons] at hspace
        exact fieldsFrom_succ budget room _ added _ (by omega)
      · rfl

end

theorem keyFrom_succ : ∀ (budget : Nat) (text : List Char), text.length + 1 ≤ budget →
    keyFrom (budget + 1) text = keyFrom budget text
  | 0, _, h => absurd h (Nat.not_succ_le_zero _)
  | budget + 1, text, h => by
    rw [keyFrom, keyFrom]
    refine Outcome.bind_congr_of_ok fun ⟨name, rest⟩ hname => ?_
    have hlength := (keyPart_leaves text name rest hname).length_le
    have hspace := (afterSpace_suffix rest).length_le
    dsimp only
    split
    · next after hdot =>
      have hafter := (afterSpace_suffix after).length_le
      rw [hdot, List.length_cons] at hspace
      rw [keyFrom_succ budget _ (by omega)]
    · rfl

theorem betweenFrom_succ : ∀ (budget : Nat) (text : List Char), text.length + 1 ≤ budget →
    betweenFrom (budget + 1) text = betweenFrom budget text
  | 0, _, h => absurd h (Nat.not_succ_le_zero _)
  | budget + 1, text, h => by
    rw [betweenFrom, betweenFrom]
    have hbreaks := (List.dropWhile_suffix (l := text) isSpaceOrBreak).length_le
    split
    · next comment hcomment =>
      refine Outcome.bind_congr_of_ok fun after hafter => ?_
      have hlength := (suffix_of_comment hafter).length_le
      rw [hcomment, List.length_cons] at hbreaks
      exact betweenFrom_succ budget after (by omega)
    · rfl

namespace Progress

theorem statement_leaves (progress : Progress) (text : List Char) : Leaves text (progress.statement text) := by
  unfold statement
  split
  · next rest =>
    have hspace := (afterSpace_suffix rest).trans (List.suffix_append ['[', '['] rest)
    refine ((key_leaves _).mono hspace).bind fun path after => ?_
    dsimp only
    split
    · next last => exact .bind_of fun opened => .ok (List.suffix_append [']', ']'] last)
    · exact .error _
  · next rest _ =>
    have hspace := (afterSpace_suffix rest).trans (List.suffix_cons '[' rest)
    refine ((key_leaves _).mono hspace).bind fun path after => ?_
    dsimp only
    split
    · next last => exact .bind_of fun opened => .ok (List.suffix_cons ']' last)
    · exact .error _
  · exact (pairFrom_leaves _ _ _).bind fun pair rest => .bind_of fun added => .ok (List.suffix_refl rest)

theorem lines_succ : ∀ (budget : Nat) (progress : Progress) (text : List Char), text.length + 1 ≤ budget →
    lines (budget + 1) progress text = lines budget progress text
  | 0, _, _, h => absurd h (Nat.not_succ_le_zero _)
  | budget + 1, progress, text, h => by
    have hspace := (afterSpace_suffix text).length_le
    rw [lines, lines]
    split
    · rfl
    · next rest hbreak =>
      rw [hbreak, List.length_cons] at hspace
      exact lines_succ budget progress rest (by omega)
    · next comment hcomment =>
      refine Outcome.bind_congr_of_ok fun after hafter => ?_
      have hlength := (suffix_of_comment hafter).length_le
      rw [hcomment, List.length_cons] at hspace
      split
      · next rest =>
        rw [List.length_cons] at hlength
        exact lines_succ budget progress rest (by omega)
      · rfl
    · refine Outcome.bind_congr_of_ok fun ⟨later, rest⟩ hstatement => ?_
      have hrest := (statement_leaves progress _ later rest hstatement).length_le
      refine Outcome.bind_congr_of_ok fun after hafter => ?_
      have hcomment := (suffix_of_afterComment hafter).length_le
      have hblank := (afterSpace_suffix rest).length_le
      split
      · rfl
      · next others =>
        rw [List.length_cons] at hcomment
        exact lines_succ budget later others (by omega)
      · rfl

end Progress

/-- No step of reading ends because its budget is used up: with larger budgets the same is read. -/
theorem read_of_budget (text : List Char) :
    (∀ budget, text.length + 1 ≤ budget → keyFrom budget text = key text ∧
      betweenFrom budget text = between text ∧ ∀ progress : Progress,
        progress.lines budget text = progress.lines (text.length + 1) text) ∧
    ∀ budget room, enough text ≤ budget → pairFrom budget room text = pairFrom (enough text) room text := by
  refine ⟨fun budget hbudget => ⟨?_, ?_, fun progress => ?_⟩, fun budget room hbudget => ?_⟩
  · exact eq_of_budget (keyFrom · text) (fun budget h => keyFrom_succ budget text h) hbudget
  · exact eq_of_budget (betweenFrom · text) (fun budget h => betweenFrom_succ budget text h) hbudget
  · exact eq_of_budget (progress.lines · text) (fun budget h => Progress.lines_succ budget progress text h) hbudget
  · exact eq_of_budget (pairFrom · room text)
      (fun budget h => pairFrom_succ budget room text (Nat.le_of_succ_le h)) hbudget

/-! ### Depth -/

theorem between_of_open (rest : List Char) : between ('[' :: rest) = .ok ('[' :: rest) := rfl

theorem valueFrom_open (budget room : Nat) (rest : List Char) :
    valueFrom (budget + 1) room ('[' :: rest) =
      if room < arrayRoom then .error .tooDeep
      else do
        let (items, last) ← itemsFrom budget (room - arrayRoom) (← between rest)
        return (.array items, last) := by
  rw [valueFrom.eq_def]
  rfl

/-- Arrays that are opened within each other lie too deep as soon as there is no room for them, whatever
is wrong behind them. -/
theorem valueFrom_of_opened : ∀ (count budget room : Nat) (rest : List Char), 2 * count ≤ budget →
    room < arrayRoom * count → valueFrom budget room (List.replicate count '[' ++ rest) = .error .tooDeep
  | 0, _, _, _, _, hroom => absurd hroom (Nat.not_lt_zero _)
  | count + 1, 0, _, _, hbudget, _ => absurd hbudget (Nat.not_succ_le_zero _)
  | 0 + 1, budget + 1, room, rest, _, hroom => (valueFrom_open budget room rest).trans (if_pos hroom)
  | count + 1 + 1, budget + 1, room, rest, hbudget, hroom => by
    rw [List.replicate_succ, List.cons_append, valueFrom_open]
    split_ifs with hlittle
    · rfl
    · obtain ⟨less, rfl⟩ : ∃ less, budget = less + 1 := ⟨budget - 1, by omega⟩
      have hinner := valueFrom_of_opened (count + 1) less (room - arrayRoom) rest (by omega)
        (by rw [Nat.mul_succ] at hroom; omega)
      rw [List.replicate_succ, List.cons_append] at hinner ⊢
      have hitems : itemsFrom (less + 1) (room - arrayRoom) ('[' :: (List.replicate count '[' ++ rest)) =
          .error .tooDeep := by
        rw [itemsFrom.eq_3 _ _ _ (by simp), hinner]
        rfl
      rw [between_of_open]
      change itemsFrom (less + 1) (room - arrayRoom) ('[' :: (List.replicate count '[' ++ rest)) >>= _ = _
      rw [hitems]
      rfl

end KotlinAudit.Toml
