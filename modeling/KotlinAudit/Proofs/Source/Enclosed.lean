import KotlinAudit.Proofs.Source.Declaration
import KotlinAudit.Proofs.Text.Lines
import KotlinAudit.Proofs.Text.Scan

/-! What blocks and groups hold. The statements that are read from a place on are the lines between the first
opening brace there and the brace that matches it, without white space around them and without comments. Where no
brace matches, they go on up to the end of the source. In the same way the text between parentheses is read, which
is kept as it is, inner groups and line breaks included. -/
namespace KotlinAudit.Source

open Text (Line Matched Within surplus within_cons within_append)

/-- Some lines are cut at a character: into what stands in front of it and what stands behind it. -/
inductive Cut (c : Char) : List Line → List Line → List Line → Prop
  | here {front rest : Line} {below : List Line} :
    Cut c ((front ++ c :: rest) :: below) [front] (rest :: below)
  | later {line : Line} {lines before after : List Line} (cut : Cut c lines before after) :
    Cut c (line :: lines) (line :: before) after

/-- What the first opening brace of some lines encloses: all up to the brace that matches it, or up to the end
where none does. -/
inductive Encloses (lines : List Line) : List Line → Prop
  | closed {before inner inside after : List Line} (opens : Cut '\x7b' lines before inner)
    (first : '\x7b' ∉ before.flatten) (closes : Cut '\x7d' inner inside after)
    (matched : Matched '\x7b' '\x7d' inside.flatten) : Encloses lines inside
  | unclosed {before inner : List Line} (opens : Cut '\x7b' lines before inner)
    (first : '\x7b' ∉ before.flatten)
    (never : ∀ inside after, Cut '\x7d' inner inside after → ¬Matched '\x7b' '\x7d' inside.flatten) :
    Encloses lines inner

/-- The lines from an index on, the first of them from a column on. -/
def linesFrom (lines : List Line) (index column : Nat) : List Line :=
  (lines.drop index).modifyHead (List.drop column)

/-- No brace closes in front of the first one that opens. -/
def OpensFirst (lines : List Line) : Prop := '\x7d' ∉ lines.flatten.takeWhile (· != '\x7b')

instance (lines : List Line) : Decidable (OpensFirst lines) :=
  inferInstanceAs (Decidable ('\x7d' ∉ lines.flatten.takeWhile (· != '\x7b')))

/-- Neither empty nor a comment. -/
def isStatement (line : Line) : Bool := !line.isEmpty && !(['/', '/'].isPrefixOf line)

variable {c : Char} {depth : Int} {text line front rest : Line} {index column : Nat}
  {lines before after other more inner inside : List Line}

/-! ### Cutting lines -/

theorem Cut.flatten_eq (h : Cut c lines before after) :
    lines.flatten = before.flatten ++ c :: after.flatten := by
  induction h with
  | here => simp
  | later _ ih => rw [List.flatten_cons, List.flatten_cons, ih, List.append_assoc]

/-- Lines can be cut at every character in them. -/
theorem exists_cut (h : lines.flatten = front ++ c :: rest) :
    ∃ before after, Cut c lines before after ∧ before.flatten = front := by
  induction lines generalizing front with
  | nil => exact absurd h.symm (List.append_ne_nil_of_right_ne_nil _ (List.cons_ne_nil c rest))
  | cons line lines ih =>
    rw [List.flatten_cons] at h
    have hlater : ∀ gap, lines.flatten = gap ++ c :: rest → line ++ gap = front →
        ∃ before after, Cut c (line :: lines) before after ∧ before.flatten = front := by
      intro gap hgap hfront
      obtain ⟨before, after, hcut, hbefore⟩ := ih hgap
      exact ⟨line :: before, after, hcut.later, by rw [List.flatten_cons, hbefore, hfront]⟩
    rcases List.append_eq_append_iff.1 h with ⟨gap, hfront, hgap⟩ | ⟨gap, hline, hgap⟩
    · exact hlater gap hgap hfront.symm
    · cases gap with
      | nil => exact hlater [] hgap.symm (by rw [hline, List.append_nil, List.append_nil])
      | cons d gap =>
        obtain ⟨rfl, -⟩ := List.cons.inj hgap
        rw [hline]
        exact ⟨[front], gap :: lines, .here, List.flatten_singleton⟩

theorem cut_cons_iff : Cut c (line :: lines) before after ↔
    (∃ front rest, line = front ++ c :: rest ∧ before = [front] ∧ after = rest :: lines) ∨
      ∃ others, before = line :: others ∧ Cut c lines others after := by
  constructor
  · intro h
    generalize hall : line :: lines = all at h
    cases h with
    | @here front rest below =>
      obtain ⟨rfl, rfl⟩ := List.cons.inj hall
      exact .inl ⟨front, rest, rfl, rfl, rfl⟩
    | @later first others before after hcut =>
      obtain ⟨rfl, rfl⟩ := List.cons.inj hall
      exact .inr ⟨before, rfl, hcut⟩
  · rintro (⟨front, rest, rfl, rfl, rfl⟩ | ⟨others, rfl, hcut⟩)
    · exact .here
    · exact hcut.later

/-- A cut is determined by the characters in front of it. -/
theorem Cut.unique (h : Cut c lines before after) (hother : Cut c lines other more)
    (hsame : before.flatten = other.flatten) : before = other ∧ after = more := by
  induction lines generalizing before other with
  | nil => cases h
  | cons line lines ih =>
    -- A cut of the first line has fewer characters in front of it than one of a later line.
    have hshort : ∀ {front rest : Line} {others : List Line}, line = front ++ c :: rest →
        [front].flatten = (line :: others).flatten → False := by
      intro front rest others hline hflat
      have hlength := congrArg List.length hflat
      rw [hline] at hlength
      simp at hlength
    rcases cut_cons_iff.1 h with ⟨front, rest, hline, rfl, rfl⟩ | ⟨others, rfl, hcut⟩ <;>
      rcases cut_cons_iff.1 hother with ⟨front', rest', hline', rfl, rfl⟩ | ⟨others', rfl, hcut'⟩
    · rw [List.flatten_singleton, List.flatten_singleton] at hsame
      subst hsame
      obtain ⟨-, rfl⟩ := List.cons.inj (List.append_cancel_left (hline.symm.trans hline'))
      exact ⟨rfl, rfl⟩
    · exact (hshort hline hsame).elim
    · exact (hshort hline' hsame.symm).elim
    · rw [List.flatten_cons, List.flatten_cons] at hsame
      obtain ⟨rfl, rfl⟩ := ih hcut hcut' (List.append_cancel_left hsame)
      exact ⟨rfl, rfl⟩

/-! ### What a block encloses -/

/-- The first brace that opens is at one place. -/
theorem Cut.first_unique (h : Cut c lines before after) (hother : Cut c lines other more)
    (hfirst : c ∉ before.flatten) (hfirst' : c ∉ other.flatten) : before = other ∧ after = more := by
  have hfree : ∀ {text : List Char}, c ∉ text → Text.Free (· == c) text := fun hnone d hd =>
    beq_eq_false_iff_ne.2 fun heq => hnone (heq ▸ hd)
  exact h.unique hother ((hfree hfirst).append_cons_inj (hfree hfirst') (beq_self_eq_true c)
    (beq_self_eq_true c) (h.flatten_eq.symm.trans hother.flatten_eq)).1

theorem Encloses.unique (h : Encloses lines inside) (hother : Encloses lines other) : inside = other := by
  cases h with
  | closed hopens hfirst hcloses hmatched =>
    cases hother with
    | closed hopens' hfirst' hcloses' hmatched' =>
      obtain ⟨rfl, rfl⟩ := hopens.first_unique hopens' hfirst hfirst'
      have hsame := hcloses.flatten_eq.symm.trans hcloses'.flatten_eq
      exact (hcloses.unique hcloses' (hmatched.append_cons_inj (by decide) hmatched' hsame).1).1
    | unclosed hopens' hfirst' hnever =>
      obtain ⟨rfl, rfl⟩ := hopens.first_unique hopens' hfirst hfirst'
      exact absurd hmatched (hnever _ _ hcloses)
  | unclosed hopens hfirst hnever =>
    cases hother with
    | closed hopens' hfirst' hcloses' hmatched' =>
      obtain ⟨rfl, rfl⟩ := hopens.first_unique hopens' hfirst hfirst'
      exact absurd hmatched' (hnever _ _ hcloses')
    | unclosed hopens' hfirst' => exact (hopens.first_unique hopens' hfirst hfirst').2

/-- Where a brace opens, a block is enclosed. -/
theorem exists_encloses (h : '\x7b' ∈ lines.flatten) : ∃ inside, Encloses lines inside := by
  obtain ⟨front, rest, hflat, hfirst⟩ := List.eq_append_cons_of_mem h
  obtain ⟨before, inner, hopens, rfl⟩ := exists_cut hflat
  by_cases hcloses : ∃ inside after, Cut '\x7d' inner inside after ∧ Matched '\x7b' '\x7d' inside.flatten
  · obtain ⟨inside, after, hcloses, hmatched⟩ := hcloses
    exact ⟨inside, .closed hopens hfirst hcloses hmatched⟩
  · exact ⟨inner, .unclosed hopens hfirst fun inside after hcut hmatched =>
      hcloses ⟨inside, after, hcut, hmatched⟩⟩

/-! ### Going through a block -/

/-- Lines as the scan of a block reads them. -/
def spelled (lines : List Line) : List (Option Char) :=
  lines.flatMap fun line => line.map some ++ [none]

theorem spelled_cons (line : Line) (lines : List Line) :
    spelled (line :: lines) = line.map some ++ none :: spelled lines := by
  rw [spelled, List.flatMap_cons, List.append_assoc]
  rfl

/-- A step of the scan inside a block. -/
theorem blockLines_inside (hlast : c = '\x7d' → depth ≠ 1) (line : Line) (rest : List (Option Char)) :
    blockLines depth true line (some c :: rest) =
      blockLines (depth + surplus '\x7b' '\x7d' [c]) true (c :: line) rest := by
  rw [blockLines]
  split
  · next hopens =>
    rw [hopens, Text.surplus_opening (by decide)]
    rfl
  split
  · next hcloses =>
    rw [if_neg (by simpa using hlast hcloses), hcloses, Text.surplus_closing (by decide)]
    rfl
  · next hopens hcloses =>
    rw [Text.surplus_other hopens hcloses, Int.add_zero]
    rfl

/-- The scan collects the characters of a line inside a block. -/
theorem blockLines_of_within (h : Within '\x7b' '\x7d' depth text) (line : Line)
    (rest : List (Option Char)) : blockLines depth true line (text.map some ++ rest) =
      blockLines (depth + surplus '\x7b' '\x7d' text) true (text.reverse ++ line) rest := by
  induction text generalizing depth line with
  | nil => rw [Text.surplus_nil, Int.add_zero]; rfl
  | cons c text ih =>
    obtain ⟨-, htext⟩ := within_cons.1 h
    have hlast : c = '\x7d' → depth ≠ 1 := by
      rintro rfl rfl
      exact absurd (htext [] List.nil_prefix) (by decide)
    rw [List.map_cons, List.cons_append, blockLines_inside hlast, ih htext, Text.surplus_cons c text,
      Int.add_assoc, List.reverse_cons, List.append_assoc]
    rfl

theorem blockLines_line (h : Within '\x7b' '\x7d' depth line) (rest : List (Option Char)) :
    blockLines depth true [] (line.map some ++ none :: rest) =
      Text.trim line :: blockLines (depth + surplus '\x7b' '\x7d' line) true [] rest := by
  rw [blockLines_of_within h, blockLines, if_pos rfl, List.append_nil, List.reverse_reverse]

/-- The lines of a block that goes on to the end. -/
theorem blockLines_unclosed (h : Within '\x7b' '\x7d' depth lines.flatten) :
    blockLines depth true [] (spelled lines) = lines.map Text.trim := by
  induction lines generalizing depth with
  | nil => rfl
  | cons line lines ih =>
    obtain ⟨hline, hlines⟩ := within_append.1 h
    rw [spelled_cons, blockLines_line hline, ih hlines, List.map_cons]

/-- The lines of a block up to the brace that closes it. -/
theorem blockLines_closed (h : Cut '\x7d' inner inside after)
    (hinside : Within '\x7b' '\x7d' depth inside.flatten)
    (hlast : depth + surplus '\x7b' '\x7d' inside.flatten = 1) :
    blockLines depth true [] (spelled inner) = inside.map Text.trim := by
  induction h generalizing depth with
  | @here front rest below =>
    rw [List.flatten_singleton] at hinside hlast
    rw [spelled_cons, List.map_append, List.append_assoc, blockLines_of_within hinside, hlast,
      List.append_nil, List.map_cons, List.cons_append, blockLines, if_neg (by decide), if_pos rfl,
      if_pos rfl, List.reverse_reverse]
    rfl
  | @later line lines inside after _ ih =>
    obtain ⟨hline, hrest⟩ := within_append.1 hinside
    rw [List.flatten_cons, Text.surplus_append, ← Int.add_assoc] at hlast
    rw [spelled_cons, blockLines_line hline, ih hrest hlast, List.map_cons]

/-- In front of the first brace nothing is collected. -/
theorem blockLines_outside (hopens : '\x7b' ∉ text) (hcloses : '\x7d' ∉ text) (rest : List (Option Char)) :
    blockLines 0 false [] (text.map some ++ rest) = blockLines 0 false [] rest := by
  induction text with
  | nil => rfl
  | cons c text ih =>
    rw [List.mem_cons, not_or] at hopens hcloses
    rw [List.map_cons, List.cons_append, blockLines, if_neg (Ne.symm hopens.1), if_neg (Ne.symm hcloses.1),
      if_neg Bool.false_ne_true, ih hopens.2 hcloses.2]

theorem blockLines_opening (h : Cut '\x7b' lines before inner) (hopens : '\x7b' ∉ before.flatten)
    (hcloses : '\x7d' ∉ before.flatten) :
    blockLines 0 false [] (spelled lines) = blockLines 1 true [] (spelled inner) := by
  induction h with
  | @here front rest below =>
    rw [List.flatten_singleton] at hopens hcloses
    rw [spelled_cons, List.map_append, List.append_assoc, blockLines_outside hopens hcloses, List.map_cons,
      List.cons_append, blockLines, if_pos rfl, spelled_cons]
    rfl
  | @later line lines before after _ ih =>
    rw [List.flatten_cons, List.mem_append, not_or] at hopens hcloses
    rw [spelled_cons, blockLines_outside hopens.1 hcloses.1, blockLines, if_neg Bool.false_ne_true,
      ih hopens.2 hcloses.2]

/-- Without a brace that opens, nothing is collected, however many close. -/
theorem blockLines_none {text : List (Option Char)} (h : some '\x7b' ∉ text) (line : Line) :
    blockLines depth false line text = [] := by
  induction text generalizing depth with
  | nil => rfl
  | cons c text ih =>
    rw [List.mem_cons, not_or] at h
    cases c with
    | none => rw [blockLines, if_neg Bool.false_ne_true, ih h.2]
    | some c =>
      rw [blockLines, if_neg fun hc => h.1 (congrArg some hc.symm)]
      split
      · rw [if_neg (by simp), if_neg Bool.false_ne_true, ih h.2]
      · rw [if_neg Bool.false_ne_true, ih h.2]

theorem mem_spelled {lines : List Line} : some c ∈ spelled lines ↔ c ∈ lines.flatten := by
  simp [spelled]

/-- What the scan collects is what the block encloses. -/
theorem blockLines_of_encloses (h : Encloses lines inside) (hopens : OpensFirst lines) :
    blockLines 0 false [] (spelled lines) = inside.map Text.trim := by
  have hbefore : ∀ {before inner : List Line}, Cut '\x7b' lines before inner → '\x7b' ∉ before.flatten →
      '\x7d' ∉ before.flatten := by
    intro before inner hcut hfirst hmem
    have hfront : ∀ c ∈ before.flatten, (c != '\x7b') = true := fun c hc =>
      bne_iff_ne.2 (ne_of_mem_of_not_mem hc hfirst)
    refine hopens ?_
    rw [hcut.flatten_eq, List.takeWhile_append_of_pos hfront]
    exact List.mem_append_left _ hmem
  cases h with
  | @closed before inner inside after hcut hfirst hcloses hmatched =>
    obtain ⟨hwithin, hclosed⟩ := Text.matched_iff.1 hmatched
    rw [blockLines_opening hcut hfirst (hbefore hcut hfirst),
      blockLines_closed hcloses hwithin (by rw [hclosed, Int.add_zero])]
  | @unclosed before inner hcut hfirst hnever =>
    rw [blockLines_opening hcut hfirst (hbefore hcut hfirst)]
    rcases @Text.within_or_exists_matched '\x7b' '\x7d' (by decide) inside.flatten
      with hwithin | ⟨front, rest, hflat, hmatched⟩
    · exact blockLines_unclosed hwithin
    · obtain ⟨other, after, hcloses, rfl⟩ := exists_cut hflat
      exact absurd hmatched (hnever other after hcloses)

theorem exists_reach?_natCast (lines : List Line) (index : Nat) : ∃ reachable,
    reach? lines index = some reachable ∧ reachable.map Prod.snd = lines.drop index := by
  refine ⟨_, reach?_natCast lines index, ?_⟩
  rw [List.map_drop, List.map_map]
  exact congrArg (List.drop index) (List.zipIdx_map_fst 0 lines)

theorem textFrom?_natCast (lines : List Line) (index column : Nat) :
    textFrom? lines index column = some (linesFrom lines index column) := by
  obtain ⟨reachable, hreach, hlines⟩ := exists_reach?_natCast lines index
  rw [textFrom?, hreach, Option.map_some, linesFrom, ← hlines]
  cases reachable <;> rfl

theorem catchStatements?_eq (lines : List Line) (index column : Nat) :
    catchStatements? lines index column = some ((blockLines 0 false []
      (spelled (linesFrom lines index column))).filter isStatement) := by
  rw [catchStatements?, textFrom?_natCast]
  rfl

/-- The statements of a block are the lines that it encloses, without comments. -/
theorem catchStatements?_of_encloses (h : Encloses (linesFrom lines index column) inside)
    (hopens : OpensFirst (linesFrom lines index column)) :
    catchStatements? lines index column = some ((inside.map Text.trim).filter isStatement) := by
  rw [catchStatements?_eq, blockLines_of_encloses h hopens]

/-- The statements that follow a place are those of the block that opens first behind it, and there are none
where no block opens. -/
theorem statements_of_block (lines : List Line) (index column : Nat) :
    ('\x7b' ∉ (linesFrom lines index column).flatten → catchStatements? lines index column = some []) ∧
    ('\x7b' ∈ (linesFrom lines index column).flatten → OpensFirst (linesFrom lines index column) →
      ∃ inside, Encloses (linesFrom lines index column) inside ∧
        (∀ other, Encloses (linesFrom lines index column) other → other = inside) ∧
        catchStatements? lines index column = some ((inside.map Text.trim).filter isStatement)) := by
  constructor
  · intro hnone
    rw [catchStatements?_eq, blockLines_none (fun h => hnone (mem_spelled.1 h)), List.filter_nil]
  · intro hopens hfirst
    obtain ⟨inside, hinside⟩ := exists_encloses hopens
    exact ⟨inside, hinside, fun other hother => hother.unique hinside,
      catchStatements?_of_encloses hinside hfirst⟩

/-- A block with another one in it and with comments, which closes in the middle of a line. -/
theorem statements_of_block_nested :
    let lines := ["try \x7b run() \x7d catch (e: E) \x7b // first".toList, "  if (x) \x7b log(e) \x7d".toList,
      "  // then".toList, " throw e \x7d finally \x7b \x7d".toList]
    '\x7b' ∈ (linesFrom lines 0 14).flatten ∧ OpensFirst (linesFrom lines 0 14) ∧
      catchStatements? lines 0 14 = some ["if (x) \x7b log(e) \x7d".toList, "throw e".toList] := by
  intro lines
  have hopens : '\x7b' ∈ (linesFrom lines 0 14).flatten := by decide
  have hfirst : OpensFirst (linesFrom lines 0 14) := by decide
  have hclause : Cut '\x7b' (linesFrom lines 0 14) ["catch (e: E) ".toList]
      (" // first".toList :: lines.tail) :=
    @Cut.here '\x7b' "catch (e: E) ".toList " // first".toList lines.tail
  have hcloses : Cut '\x7d' (" // first".toList :: lines.tail) [" // first".toList,
      "  if (x) \x7b log(e) \x7d".toList, "  // then".toList, " throw e ".toList]
      [" finally \x7b \x7d".toList] :=
    .later (.later (.later (@Cut.here '\x7d' " throw e ".toList " finally \x7b \x7d".toList [])))
  obtain ⟨inside, -, hunique, hstatements⟩ := (statements_of_block lines 0 14).2 hopens hfirst
  rw [← hunique _ (.closed hclause (by decide) hcloses (by decide))] at hstatements
  exact ⟨hopens, hfirst, hstatements.trans (by decide)⟩

/-! ### Groups of parentheses -/

section Groups

/-- What the first group in a text holds. Nothing is held where no group opens. -/
inductive Holds (text : List Char) : List Char → Prop
  | closed {front inside after : List Char} (opens : text = front ++ '(' :: (inside ++ ')' :: after))
    (first : '(' ∉ front) (matched : Matched '(' ')' inside) : Holds text inside
  | unclosed {front rest : List Char} (opens : text = front ++ '(' :: rest) (first : '(' ∉ front)
    (never : ∀ inside after, rest = inside ++ ')' :: after → ¬Matched '(' ')' inside) :
    Holds text (rest ++ ['\n'])
  | none (never : '(' ∉ text) : Holds text []

/-- No parenthesis closes in front of the first one that opens. -/
def LeadsIn (text : List Char) : Prop := '(' ∈ text → ')' ∉ text.takeWhile (· != '(')

instance (text : List Char) : Decidable (LeadsIn text) :=
  inferInstanceAs (Decidable ('(' ∈ text → ')' ∉ text.takeWhile (· != '(')))

/-- The source from a place on, with a line break between its lines. -/
def sourceFrom (lines : List Line) (start column : Nat) : List Char :=
  Text.join ['\n'] (linesFrom lines start column)

variable {inside : List Char}

/-- A step of the scan inside a group. -/
theorem insideGroup_inside (hdepth : 0 < depth) (hlast : c = ')' → depth ≠ 1) (rest : List Char) :
    insideGroup depth (c :: rest) = c :: insideGroup (depth + surplus '(' ')' [c]) rest := by
  rw [insideGroup]
  split
  · next hopens =>
    rw [if_neg (by omega), if_neg (by omega), hopens, Text.surplus_opening (by decide)]
  split
  · next hcloses =>
    rw [if_neg (hlast hcloses), if_neg (by omega), hcloses, Text.surplus_closing (by decide)]
    rfl
  · next hopens hcloses =>
    rw [if_pos (by omega), Text.surplus_other hopens hcloses, Int.add_zero]

/-- Inside a group the scan keeps every character. -/
theorem insideGroup_of_within (h : Within '(' ')' depth text) (rest : List Char) :
    insideGroup depth (text ++ rest) = text ++ insideGroup (depth + surplus '(' ')' text) rest := by
  induction text generalizing depth with
  | nil => rw [Text.surplus_nil, Int.add_zero]; rfl
  | cons c text ih =>
    obtain ⟨hdepth, htext⟩ := within_cons.1 h
    have hlast : c = ')' → depth ≠ 1 := by
      rintro rfl rfl
      exact absurd (htext [] List.nil_prefix) (by decide)
    rw [List.cons_append, insideGroup_inside hdepth hlast, ih htext, Text.surplus_cons c text, Int.add_assoc,
      List.cons_append]

/-- In front of the group nothing is kept. -/
theorem insideGroup_outside (hopens : '(' ∉ front) (hcloses : ')' ∉ front) (rest : List Char) :
    insideGroup 0 (front ++ rest) = insideGroup 0 rest := by
  induction front with
  | nil => rfl
  | cons c front ih =>
    rw [List.mem_cons, not_or] at hopens hcloses
    rw [List.cons_append, insideGroup, if_neg (Ne.symm hopens.1), if_neg (Ne.symm hcloses.1),
      if_neg (by decide), ih hopens.2 hcloses.2]

/-- Without a parenthesis that opens nothing is kept, however many close. -/
theorem insideGroup_none (h : '(' ∉ text) (hdepth : depth ≤ 0) : insideGroup depth text = [] := by
  induction text generalizing depth with
  | nil => rfl
  | cons c text ih =>
    rw [List.mem_cons, not_or] at h
    rw [insideGroup, if_neg (Ne.symm h.1)]
    split
    · rw [if_neg (by omega), if_pos (by omega), ih h.2 (by omega)]
    · rw [if_neg (by omega), ih h.2 hdepth]

theorem not_mem_of_leadsIn (h : LeadsIn text) (hopens : text = front ++ '(' :: rest) (hfirst : '(' ∉ front) :
    ')' ∉ front := by
  have hfront : ∀ c ∈ front, (c != '(') = true := fun c hc => bne_iff_ne.2 (ne_of_mem_of_not_mem hc hfirst)
  have hmem : '(' ∈ text := hopens ▸ List.mem_append_right front List.mem_cons_self
  have hclosing := h hmem
  rwa [hopens, List.takeWhile_append_of_pos hfront, List.takeWhile_cons_of_neg (by decide),
    List.append_nil] at hclosing

/-- The scan starts to keep what follows the first parenthesis that opens. -/
theorem insideGroup_opening (h : LeadsIn text) (hopens : text = front ++ '(' :: rest) (hfirst : '(' ∉ front)
    (more : List Char) : insideGroup 0 (text ++ more) = insideGroup 1 (rest ++ more) := by
  have hcloses := not_mem_of_leadsIn h hopens hfirst
  rw [hopens, List.append_assoc, insideGroup_outside hfirst hcloses, List.cons_append, insideGroup,
    if_pos rfl, if_neg (by decide), if_pos rfl]

/-! ### What a group holds -/

theorem exists_holds (text : List Char) : ∃ inside, Holds text inside := by
  by_cases hopens : '(' ∈ text
  · obtain ⟨front, rest, heq, hfirst⟩ := List.eq_append_cons_of_mem hopens
    by_cases hcloses : ∃ inside after, rest = inside ++ ')' :: after ∧ Matched '(' ')' inside
    · obtain ⟨inside, after, rfl, hmatched⟩ := hcloses
      exact ⟨inside, .closed heq hfirst hmatched⟩
    · exact ⟨rest ++ ['\n'], .unclosed heq hfirst fun inside after hrest hmatched =>
        hcloses ⟨inside, after, hrest, hmatched⟩⟩
  · exact ⟨[], .none hopens⟩

/-- The scan of a text with a line break behind it keeps what the first group of the text holds. -/
theorem insideGroup_of_holds (hleads : LeadsIn text) (h : Holds text inside) :
    insideGroup 0 (text ++ ['\n']) = inside := by
  cases h with
  | @closed front inside after hopens hfirst hmatched =>
    obtain ⟨hwithin, hclosed⟩ := Text.matched_iff.1 hmatched
    rw [insideGroup_opening hleads hopens hfirst, List.append_assoc, insideGroup_of_within hwithin, hclosed,
      Int.add_zero, List.cons_append, insideGroup, if_neg (by decide), if_pos rfl, if_pos rfl, List.append_nil]
  | @unclosed front rest hopens hfirst hnever =>
    rw [insideGroup_opening hleads hopens hfirst]
    rcases @Text.within_or_exists_matched '(' ')' (by decide) rest with hwithin | ⟨other, after, hrest, hmatched⟩
    · have hopen := hwithin rest (List.prefix_refl rest)
      rw [insideGroup_of_within hwithin, insideGroup_inside hopen (fun hc => absurd hc (by decide)), insideGroup]
    · exact absurd hmatched (hnever other after hrest)
  | none hnever =>
    refine insideGroup_none ?_ (Int.le_refl 0)
    simpa using hnever

theorem flatMap_eq_join (h : lines ≠ []) : lines.flatMap (· ++ ['\n']) = Text.join ['\n'] lines ++ ['\n'] := by
  induction lines with
  | nil => exact absurd rfl h
  | cons line rest ih =>
    cases rest with
    | nil => simp [Text.join]
    | cons next others =>
      rw [List.flatMap_cons, ih (List.cons_ne_nil next others), Text.join_cons_cons]
      simp

theorem groupText_of_holds (hleads : LeadsIn (Text.join ['\n'] lines))
    (h : Holds (Text.join ['\n'] lines) inside) : groupText lines = inside := by
  cases lines with
  | nil =>
    have hkept := insideGroup_of_holds hleads h
    rwa [show Text.join ['\n'] [] = [] from rfl, List.nil_append, insideGroup_none (by decide) (Int.le_refl 0)]
      at hkept
  | cons line rest =>
    rw [groupText, flatMap_eq_join (List.cons_ne_nil line rest)]
    exact insideGroup_of_holds hleads h

/-- What is read from a place on is what the first group there holds: up to the parenthesis that matches, or all
that follows and a line break where none does, and nothing where no group opens. -/
theorem parenthesized_iff_holds {lines : List Line} {start column : Nat} (inside : List Char)
    (h : LeadsIn (sourceFrom lines start column)) :
    parenthesized? lines start column = some inside ↔ Holds (sourceFrom lines start column) inside := by
  have hkept : ∀ other, Holds (sourceFrom lines start column) other →
      parenthesized? lines start column = some other := by
    intro other hholds
    rw [parenthesized?, textFrom?_natCast, Option.map_some, groupText_of_holds h hholds]
  constructor
  · intro hinside
    obtain ⟨other, hother⟩ := exists_holds (sourceFrom lines start column)
    rw [hkept other hother] at hinside
    exact Option.some.inj hinside ▸ hother
  · exact hkept inside

/-- A group over two lines with another one in it, and below it a group that never closes. -/
theorem parenthesized_iff_holds_spanning :
    let lines := [") // (".toList, "@Query(\"SELECT max(id)\" +".toList, "  \" FROM meals\")".toList,
      "fun newest(id: Int,".toList]
    LeadsIn (sourceFrom lines 1 0) ∧
      parenthesized? lines 1 0 = some "\"SELECT max(id)\" +\n  \" FROM meals\"".toList ∧
      LeadsIn (sourceFrom lines 3 4) ∧ parenthesized? lines 3 4 = some "id: Int,\n".toList := by
  intro lines
  have hquery : LeadsIn (sourceFrom lines 1 0) := by decide
  have hfunction : LeadsIn (sourceFrom lines 3 4) := by decide
  refine ⟨hquery, (parenthesized_iff_holds _ hquery).2 ?_, hfunction, (parenthesized_iff_holds _ hfunction).2 ?_⟩
  · exact @Holds.closed _ "@Query".toList _ "\nfun newest(id: Int,".toList (by decide) (by decide) (by decide)
  · refine @Holds.unclosed _ "newest".toList "id: Int,".toList (by decide) (by decide) ?_
    rintro inside after hrest -
    exact absurd (hrest ▸ List.mem_append_right inside List.mem_cons_self : ')' ∈ "id: Int,".toList) (by decide)

end Groups

end KotlinAudit.Source
