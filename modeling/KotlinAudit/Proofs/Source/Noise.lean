import KotlinAudit.Proofs.Pattern.Captured
import KotlinAudit.Proofs.Pattern.Replacing
import KotlinAudit.Proofs.Text.Lines
import KotlinAudit.Proofs.Text.Scan
import KotlinAudit.Source.Complexity
import Mathlib.Data.List.Infix

/-! What measures see of a line. A literal goes from a quote to the next one that is not escaped, and a
comment from two slashes outside of literals to the end of the line. Literals are emptied first, so slashes in
them start no comment. What a literal or a comment holds changes no measure: neither decision points, nor
nesting, nor parameters. Parameters are counted in the visible text of some lines, which is all that is no
noise, no arrow and no white space, from its first parenthesis on. -/
namespace KotlinAudit.Source

open Pattern
open Text (Line)

/-- What may stand between the quotes of a literal: no quote and no backslash, but behind a backslash any
character of a line. -/
inductive Quotable : List Char → Prop
  | nil : Quotable []
  | plain {c : Char} {rest : List Char} (quote : c ≠ '"') (slash : c ≠ '\\') (later : Quotable rest) :
    Quotable (c :: rest)
  | escaped {c : Char} {rest : List Char} (feed : c ≠ '\n') (later : Quotable rest) :
    Quotable ('\\' :: c :: rest)

/-- A text in which no quote stands outside of a literal that is closed. -/
inductive Complete : List Char → Prop
  | nil : Complete []
  | plain {c : Char} {rest : List Char} (quote : c ≠ '"') (later : Complete rest) : Complete (c :: rest)
  | literal {inner rest : List Char} (inside : Quotable inner) (later : Complete rest) :
    Complete ('"' :: (inner ++ '"' :: rest))

/-- Two lines that differ in what stands inside of a literal, or behind the sign of a comment. -/
inductive Alike : Line → Line → Prop
  | literal {front inner other rest : List Char} (complete : Complete front) (inside : Quotable inner)
    (instead : Quotable other) :
    Alike (front ++ '"' :: (inner ++ '"' :: rest)) (front ++ '"' :: (other ++ '"' :: rest))
  | comment {front text other : List Char} (complete : Complete front) (line : '\n' ∉ text)
    (instead : '\n' ∉ other) : Alike (front ++ '/' :: '/' :: text) (front ++ '/' :: '/' :: other)

/-- A text in which nothing is noise: it holds no quote, and no two slashes in a row. -/
structure Noiseless (text : List Char) : Prop where
  quote : '"' ∉ text
  slashes : ¬['/', '/'] <:+: text

instance (text : List Char) : Decidable (Noiseless text) :=
  decidable_of_iff ('"' ∉ text ∧ ¬['/', '/'] <:+: text)
    ⟨fun ⟨hquote, hslashes⟩ => ⟨hquote, hslashes⟩, fun h => ⟨h.quote, h.slashes⟩⟩

variable {c : Char} {text rest front inner other more : List Char} {cursor reached : Cursor}

/-! ### Literals -/

theorem Quotable.append_inj (h : Quotable inner) (hother : Quotable other)
    (heq : inner ++ '"' :: rest = other ++ '"' :: more) : inner = other := by
  induction h generalizing other with
  | nil =>
    cases hother with
    | nil => rfl
    | plain hquote => exact absurd (List.cons.inj heq).1.symm hquote
    | escaped => exact absurd (List.cons.inj heq).1 (by decide)
  | plain hquote hslash _ ih =>
    cases hother with
    | nil => exact absurd (List.cons.inj heq).1 hquote
    | plain _ _ hlater =>
      obtain ⟨rfl, hrest⟩ := List.cons.inj heq
      rw [ih hlater hrest]
    | escaped => exact absurd (List.cons.inj heq).1 hslash
  | escaped _ _ ih =>
    cases hother with
    | nil => exact absurd (List.cons.inj heq).1 (by decide)
    | plain _ hslash => exact absurd (List.cons.inj heq).1.symm hslash
    | escaped _ hlater =>
      obtain ⟨rfl, hrest⟩ := List.cons.inj (List.cons.inj heq).2
      rw [ih hlater hrest]

/-- One round inside of a literal. -/
def insideRound : Pattern := either (all [only '\\', inLine]) (noneOf "\"\\")

theorem stringLiteral_eq :
    stringLiteral = seq (only '"') (seq (many insideRound) (only '"')) := rfl

theorem language_insideRound_iff {piece : List Char} : insideRound.language piece ↔
    (∃ c, piece = ['\\', c] ∧ c ≠ '\n') ∨ ∃ c, piece = [c] ∧ c ≠ '"' ∧ c ≠ '\\' := by
  have hnone : ∀ c, (!"\"\\".toList.contains c) = true ↔ c ≠ '"' ∧ c ≠ '\\' := by simp
  have hescape : (all [only '\\', inLine]).language piece ↔ ∃ c, piece = ['\\', c] ∧ c ≠ '\n' := by
    constructor
    · rintro ⟨front, back, rfl, ⟨slash, rfl, hslash⟩, c, rfl, hc⟩
      exact ⟨c, by rw [eq_of_beq hslash]; rfl, bne_iff_ne.1 hc⟩
    · rintro ⟨c, rfl, hc⟩
      exact ⟨['\\'], [c], rfl, ⟨'\\', rfl, rfl⟩, c, rfl, bne_iff_ne.2 hc⟩
  have hplain : (noneOf "\"\\").language piece ↔ ∃ c, piece = [c] ∧ c ≠ '"' ∧ c ≠ '\\' :=
    exists_congr fun c => and_congr_right fun _ => hnone c
  exact or_congr hescape hplain

theorem quotable_flatten {pieces : List (List Char)} (h : ∀ piece ∈ pieces, insideRound.language piece) :
    Quotable pieces.flatten := by
  induction pieces with
  | nil => exact .nil
  | cons piece pieces ih =>
    obtain ⟨hpiece, hpieces⟩ := List.forall_mem_cons.1 h
    rcases language_insideRound_iff.1 hpiece with ⟨c, rfl, hfeed⟩ | ⟨c, rfl, hquote, hslash⟩
    · exact .escaped hfeed (ih hpieces)
    · exact .plain hquote hslash (ih hpieces)

theorem Quotable.exists_pieces (h : Quotable inner) : ∃ pieces : List (List Char),
    pieces.flatten = inner ∧ pieces.length ≤ inner.length ∧
      ∀ piece ∈ pieces, piece ≠ [] ∧ insideRound.language piece := by
  induction h with
  | nil => exact ⟨[], rfl, Nat.le_refl _, List.forall_mem_nil _⟩
  | @plain c rest hquote hslash _ ih =>
    obtain ⟨pieces, rfl, hlength, hpieces⟩ := ih
    exact ⟨[c] :: pieces, rfl, Nat.succ_le_succ hlength, List.forall_mem_cons.2
      ⟨⟨List.cons_ne_nil _ _, language_insideRound_iff.2 (.inr ⟨c, rfl, hquote, hslash⟩)⟩, hpieces⟩⟩
  | @escaped c rest hfeed _ ih =>
    obtain ⟨pieces, rfl, hlength, hpieces⟩ := ih
    exact ⟨['\\', c] :: pieces, rfl, Nat.le_succ_of_le (Nat.succ_le_succ hlength), List.forall_mem_cons.2
      ⟨⟨List.cons_ne_nil _ _, language_insideRound_iff.2 (.inl ⟨c, rfl, hfeed⟩)⟩, hpieces⟩⟩

/-- A quoted text with its quotes. -/
def IsLiteral (passed : List Char) : Prop := ∃ inner, Quotable inner ∧ passed = '"' :: (inner ++ ['"'])

theorem exists_literal_of_way (h : reached ∈ stringLiteral.ways cursor) :
    ∃ passed, IsLiteral passed ∧ cursor.Passes passed reached := by
  rw [stringLiteral_eq] at h
  obtain ⟨first, hfirst, h⟩ := List.mem_flatMap.1 h
  obtain ⟨last, hlast, h⟩ := List.mem_flatMap.1 h
  obtain ⟨opening, hopening, hopens, -⟩ := passes_of_mem_ways_char hfirst
  rw [ways_many rfl] at hlast
  obtain ⟨pieces, -, hpieces, hinside⟩ :=
    exists_pieces_of_mem_roundWays (fun _ _ => exists_passes rfl) hlast
  obtain ⟨closing, hclosing, hcloses, -⟩ := passes_of_mem_ways_char h
  rw [eq_of_beq hopening] at hopens
  rw [eq_of_beq hclosing] at hcloses
  exact ⟨_, ⟨pieces.flatten, quotable_flatten hpieces, rfl⟩, hopens.trans (hinside.trans hcloses)⟩

theorem ways_of_literal (hafter : cursor.after = text ++ rest) (h : IsLiteral text) :
    stringLiteral.ways cursor ≠ [] := by
  obtain ⟨inner, hinner, rfl⟩ := h
  obtain ⟨pieces, rfl, hlength, hpieces⟩ := hinner.exists_pieces
  have hinside : (cursor.forward ['"']).after = pieces.flatten ++ ('"' :: rest) := by
    refine Cursor.after_forward (hafter.trans ?_)
    rw [List.cons_append, List.append_assoc]
    rfl
  have hbudget : pieces.length ≤ (cursor.forward ['"']).after.length + 1 := by
    rw [hinside, List.length_append]
    omega
  obtain ⟨last, hlast, hpasses⟩ := exists_roundWay (fun _ _ _ => exists_way rfl) hpieces hinside hbudget true
  rw [← ways_many rfl] at hlast
  have hclosing : last.after = '"' :: rest :=
    List.append_cancel_left (hpasses.after.symm.trans hinside)
  have hfirst : cursor.forward ['"'] ∈ (only '"').ways cursor :=
    mem_ways_char.2 ⟨'"', _, hafter, rfl, rfl⟩
  exact List.ne_nil_of_mem (List.mem_flatMap.2 ⟨_, hfirst, List.mem_flatMap.2
    ⟨last, hlast, mem_ways_char.2 ⟨'"', rest, hclosing, rfl, rfl⟩⟩⟩)

/-- A literal goes from a quote to the next one that is not escaped. -/
theorem IsLiteral.unique (h : IsLiteral text) (hother : IsLiteral other)
    (heq : text ++ rest = other ++ more) : text = other := by
  obtain ⟨inner, hinner, rfl⟩ := h
  obtain ⟨instead, hinstead, rfl⟩ := hother
  simp only [List.cons_append, List.append_assoc] at heq
  rw [hinner.append_inj hinstead (List.cons.inj heq).2]

theorem decides_stringLiteral : stringLiteral.Decides fun passed _ => IsLiteral passed where
  sound _ _ hnext := exists_literal_of_way hnext
  complete _ _ _ hafter hliteral := ways_of_literal hafter hliteral
  unique _ _ _ _ heq hliteral hother := hliteral.unique hother heq
  ne := by
    rintro _ _ ⟨inner, -, rfl⟩
    exact List.cons_ne_nil _ _

/-- A line with its literals emptied. -/
def emptied (line : Line) : Line := stringLiteral.replaceAll (fun _ => ['"', '"']) line

theorem emptied_nil : emptied [] = [] := decides_stringLiteral.replaceAll_nil

theorem emptied_cons (h : c ≠ '"') (rest : List Char) : emptied (c :: rest) = c :: emptied rest := by
  refine decides_stringLiteral.replaceAll_cons ?_
  rintro passed others heq ⟨inner, -, rfl⟩
  exact h (List.cons.inj heq).1

theorem emptied_literal (h : Quotable inner) (rest : List Char) :
    emptied ('"' :: (inner ++ '"' :: rest)) = '"' :: '"' :: emptied rest := by
  have heq : '"' :: (inner ++ '"' :: rest) = '"' :: (inner ++ ['"']) ++ rest := by
    rw [List.cons_append, List.append_assoc]
    rfl
  rw [heq]
  exact decides_stringLiteral.replaceAll_append ⟨inner, h, rfl⟩

/-- Behind a text of closed literals all is as at the start of a line. -/
theorem emptied_append (h : Complete front) (rest : List Char) :
    emptied (front ++ rest) = emptied front ++ emptied rest := by
  induction h with
  | nil => rw [emptied_nil, List.nil_append, List.nil_append]
  | plain hquote _ ih => rw [List.cons_append, emptied_cons hquote, emptied_cons hquote, ih, List.cons_append]
  | literal hinside _ ih =>
    rw [emptied_literal hinside, List.cons_append, List.append_assoc, List.cons_append,
      emptied_literal hinside, ih]
    rfl

theorem complete_of_not_mem (h : '"' ∉ text) : Complete text := by
  induction text with
  | nil => exact .nil
  | cons c rest ih =>
    rw [List.mem_cons, not_or] at h
    exact .plain (Ne.symm h.1) (ih h.2)

theorem emptied_of_not_mem (h : '"' ∉ text) : emptied text = text := by
  induction text with
  | nil => exact emptied_nil
  | cons c rest ih =>
    rw [List.mem_cons, not_or] at h
    rw [emptied_cons (Ne.symm h.1), ih h.2]

/-! ### Comments -/

theorem lineComment_eq : lineComment = seq (Pattern.text "//") (seq (many inLine) finish) := rfl

/-- Two slashes with all that stands behind them up to the end of the line. -/
def IsComment (passed rest : List Char) : Prop :=
  ∃ text, passed = '/' :: '/' :: text ∧ '\n' ∉ text ∧ (rest = [] ∨ rest = ['\n'])

theorem exists_comment_of_way (h : reached ∈ lineComment.ways cursor) :
    ∃ passed, IsComment passed reached.after ∧ cursor.Passes passed reached := by
  rw [lineComment_eq] at h
  obtain ⟨middle, hmiddle, h⟩ := List.mem_flatMap.1 h
  obtain ⟨last, hlast, h⟩ := List.mem_flatMap.1 h
  obtain ⟨_, ⟨_, _, rfl, ⟨slash, rfl, hslash⟩, other, rfl, hother⟩, hslashes⟩ :=
    exists_passes rfl hmiddle
  obtain ⟨text, -, -, htext, hcomment, -⟩ := passes_of_mem_ways_repeated hlast
  rw [eq_of_beq hslash, eq_of_beq hother] at hslashes
  rw [finish, ways] at h
  split at h
  · next hend =>
    obtain rfl := List.mem_singleton.1 h
    rw [Cursor.atEnd, Bool.or_eq_true, beq_iff_eq, beq_iff_eq] at hend
    refine ⟨_, ⟨text, rfl, fun hfeed => ?_, hend⟩, hslashes.trans hcomment⟩
    exact absurd (htext _ hfeed) (by decide)
  · exact absurd h List.not_mem_nil

theorem ways_of_comment (hafter : cursor.after = front ++ rest) (h : IsComment front rest) :
    lineComment.ways cursor ≠ [] := by
  obtain ⟨text, rfl, hfeed, hrest⟩ := h
  have hslashes : (Pattern.text "//").language ['/', '/'] :=
    ⟨['/'], ['/'], rfl, ⟨'/', rfl, rfl⟩, '/', rfl, rfl⟩
  have hinLine : (many inLine).language text := by
    refine ⟨Nat.zero_le _, fun _ hmost => absurd hmost (by simp), fun c hc => ?_⟩
    exact language_char_iff.2 (bne_iff_ne.2 fun heq => hfeed (heq ▸ hc))
  obtain ⟨middle, hmiddle, hpasses⟩ := exists_way rfl hslashes hafter
  have htext : middle.after = text ++ rest := List.append_cancel_left (hpasses.after.symm.trans hafter)
  obtain ⟨last, hlast, hcomment⟩ := exists_way rfl hinLine htext
  have hend : last.atEnd = true := by
    rw [Cursor.atEnd, Bool.or_eq_true, beq_iff_eq, beq_iff_eq,
      List.append_cancel_left (hcomment.after.symm.trans htext)]
    exact hrest
  have hfinish : last ∈ finish.ways last := by
    rw [finish, ways, if_pos hend]
    exact List.mem_singleton_self last
  exact List.ne_nil_of_mem (List.mem_flatMap.2
    ⟨middle, hmiddle, List.mem_flatMap.2 ⟨last, hlast, hfinish⟩⟩)

/-- A comment goes up to the end of the line. -/
theorem IsComment.unique (h : IsComment front rest) (hother : IsComment other more)
    (heq : front ++ rest = other ++ more) : front = other := by
  obtain ⟨text, rfl, hfeed, hrest⟩ := h
  obtain ⟨instead, rfl, hfeed', hmore⟩ := hother
  have htexts : text ++ rest = instead ++ more := (List.cons.inj (List.cons.inj heq).2).2
  rcases hrest with rfl | rfl
  · rw [List.append_nil] at htexts
    rcases hmore with rfl | rfl
    · rw [htexts, List.append_nil]
    · exact absurd (htexts ▸ List.mem_append_right instead List.mem_cons_self) hfeed
  · rcases hmore with rfl | rfl
    · rw [List.append_nil] at htexts
      exact absurd (htexts ▸ List.mem_append_right text List.mem_cons_self) hfeed'
    · rw [List.append_cancel_right htexts]

theorem decides_lineComment : lineComment.Decides IsComment where
  sound _ _ hnext := exists_comment_of_way hnext
  complete _ _ _ hafter hcomment := ways_of_comment hafter hcomment
  unique _ _ _ _ heq hcomment hother := hcomment.unique hother heq
  ne := by
    rintro _ _ ⟨text, rfl, -⟩
    exact List.cons_ne_nil _ _

/-- A line without the comment at its end. -/
def uncommented (line : Line) : Line := lineComment.replaceAll (fun _ => []) line

theorem withoutNoise_eq (line : Line) : withoutNoise line = uncommented (emptied line) := rfl

theorem uncommented_nil : uncommented [] = [] := decides_lineComment.replaceAll_nil

theorem uncommented_cons (h : ¬['/', '/'] <+: c :: rest) :
    uncommented (c :: rest) = c :: uncommented rest := by
  refine decides_lineComment.replaceAll_cons ?_
  rintro passed others heq ⟨text, rfl, -⟩
  exact h ⟨text ++ others, heq.symm⟩

theorem uncommented_comment (h : '\n' ∉ text) : uncommented ('/' :: '/' :: text) = [] := by
  have hfound := @Decides.replaceAll_append _ _ [] _ _ decides_lineComment ⟨text, rfl, h, .inl rfl⟩
  rw [List.append_nil, List.nil_append] at hfound
  exact hfound.trans uncommented_nil

/-- Behind two slashes from which the line goes on over a line feed there is no comment. -/
theorem uncommented_broken (h : '\n' ∈ front) (hmore : more ≠ []) :
    uncommented ('/' :: '/' :: (front ++ more)) = '/' :: uncommented ('/' :: (front ++ more)) := by
  refine decides_lineComment.replaceAll_cons ?_
  rintro passed others heq ⟨text, rfl, hfeed, hothers⟩
  have hrest : front ++ more = text ++ others := (List.cons.inj (List.cons.inj heq).2).2
  rcases List.append_eq_append_iff.1 hrest with ⟨back, rfl, -⟩ | ⟨back, rfl, hlong⟩
  · exact hfeed (List.mem_append_left back h)
  · have hback := List.length_pos_of_mem ((List.mem_append.1 h).resolve_left hfeed)
    have hpositive := List.length_pos_iff.2 hmore
    have hshort : others.length ≤ 1 := by
      rcases hothers with rfl | rfl
      · exact Nat.zero_le 1
      · exact Nat.le_refl 1
    rw [hlong, List.length_append] at hshort
    omega

/-- What a comment holds does not matter. -/
theorem uncommented_append_comment (front : List Char) (h : '\n' ∉ text) (hother : '\n' ∉ other) :
    uncommented (front ++ '/' :: '/' :: text) = uncommented (front ++ '/' :: '/' :: other) := by
  induction front with
  | nil => rw [List.nil_append, List.nil_append, uncommented_comment h, uncommented_comment hother]
  | cons c front ih =>
    have hline : ∀ rest, c :: (front ++ '/' :: '/' :: rest) = c :: (front ++ ['/']) ++ '/' :: rest := by
      intro rest
      rw [List.cons_append, List.append_assoc]
      rfl
    by_cases hslashes : ['/', '/'] <+: c :: (front ++ ['/'])
    -- The line holds two slashes here already, which start a comment unless a line feed follows.
    · obtain ⟨behind, hbehind⟩ := hslashes
      have hfront : front ++ ['/'] = '/' :: behind := (List.cons.inj hbehind).2.symm
      have hrest : ∀ rest, front ++ '/' :: '/' :: rest = '/' :: (behind ++ '/' :: rest) := by
        intro rest
        rw [← List.cons_append, ← hfront, List.append_assoc]
        rfl
      rw [List.cons_append, List.cons_append, ← (List.cons.inj hbehind).1]
      by_cases hfeed : '\n' ∈ behind
      · rw [hrest, hrest] at ih ⊢
        rw [uncommented_broken hfeed (List.cons_ne_nil _ _), ih,
          uncommented_broken hfeed (List.cons_ne_nil _ _)]
      · have hplain : ∀ rest, '\n' ∉ rest → '\n' ∉ behind ++ '/' :: rest := by
          intro rest hnone hmem
          rcases List.mem_append.1 hmem with hmem | hmem
          · exact hfeed hmem
          · exact hnone ((List.mem_cons.1 hmem).resolve_left (by decide))
        rw [hrest, hrest, uncommented_comment (hplain text h), uncommented_comment (hplain other hother)]
    · have hkept : ∀ rest, ¬['/', '/'] <+: c :: (front ++ '/' :: '/' :: rest) := by
        intro rest hprefix
        rw [hline] at hprefix
        refine hslashes (List.prefix_of_prefix_length_le hprefix (List.prefix_append _ _) ?_)
        change 1 + 1 ≤ (front ++ ['/']).length + 1
        rw [List.length_append]
        exact Nat.succ_le_succ (Nat.le_add_left 1 _)
      rw [List.cons_append, List.cons_append, uncommented_cons (hkept text), ih, uncommented_cons (hkept other)]

/-! ### Lines without noise -/

variable {line instead : Line}

theorem not_mem_emptied (h : c ∉ text) (hquote : c ≠ '"') : c ∉ emptied text := fun hmem =>
  h (mem_of_mem_replaceAll (fun _ => by simp [hquote]) hmem)

/-- Behind a text without two slashes a line is read on its own, unless a slash follows. -/
theorem uncommented_append (h : ¬['/', '/'] <:+: front) (hrest : rest.head? ≠ some '/') :
    uncommented (front ++ rest) = front ++ uncommented rest := by
  induction front with
  | nil => rfl
  | cons c front ih =>
    rw [List.infix_cons_iff, not_or] at h
    have hkept : ¬['/', '/'] <+: c :: (front ++ rest) := by
      intro hstarts
      obtain ⟨rfl, hnext⟩ := List.cons_prefix_cons.1 hstarts
      cases front with
      | nil =>
        obtain ⟨behind, rfl⟩ : ['/'] <+: rest := hnext
        exact hrest rfl
      | cons d front =>
        obtain ⟨rfl, -⟩ := List.cons_prefix_cons.1 hnext
        exact h.1 (List.prefix_append ['/', '/'] front)
    rw [List.cons_append, uncommented_cons hkept, ih h.2, List.cons_append]

theorem withoutNoise_of_noiseless (h : Noiseless text) : withoutNoise text = text := by
  have hend : ([] : List Char).head? ≠ some '/' := by simp
  have hwhole := uncommented_append h.slashes hend
  rw [List.append_nil, uncommented_nil, List.append_nil] at hwhole
  rw [withoutNoise_eq, emptied_of_not_mem h.quote, hwhole]

theorem withoutNoise_append_cons (h : Noiseless front) (hquote : c ≠ '"') (hslash : c ≠ '/')
    (rest : List Char) : withoutNoise (front ++ c :: rest) = front ++ c :: withoutNoise rest := by
  have hstart : ¬['/', '/'] <+: c :: emptied rest := fun hstarts =>
    hslash (List.cons_prefix_cons.1 hstarts).1.symm
  rw [withoutNoise_eq, emptied_append (complete_of_not_mem h.quote), emptied_of_not_mem h.quote,
    emptied_cons hquote, uncommented_append h.slashes (by simpa using hslash), uncommented_cons hstart,
    withoutNoise_eq]

theorem withoutNoise_comment (h : '\n' ∉ text) : withoutNoise ('/' :: '/' :: text) = [] := by
  rw [withoutNoise_eq, emptied_cons (by decide), emptied_cons (by decide),
    uncommented_comment (not_mem_emptied h (by decide))]

theorem withoutNoise_of_alike (h : Alike line instead) : withoutNoise line = withoutNoise instead := by
  rw [withoutNoise_eq, withoutNoise_eq]
  cases h with
  | literal hcomplete hinside hinstead =>
    rw [emptied_append hcomplete, emptied_append hcomplete, emptied_literal hinside,
      emptied_literal hinstead]
  | comment hcomplete hline hinstead =>
    have hslashes : ∀ text, emptied ('/' :: '/' :: text) = '/' :: '/' :: emptied text := by
      intro text
      rw [emptied_cons (by decide), emptied_cons (by decide)]
    rw [emptied_append hcomplete, emptied_append hcomplete, hslashes, hslashes]
    exact uncommented_append_comment _ (not_mem_emptied hline (by decide))
      (not_mem_emptied hinstead (by decide))

/-! ### The visible text of a parameter list -/

/-- A line as the count of parameters reads it: blanks stand in place of arrows. -/
def arrowless (line : Line) : Line := Text.replaceAll '-' ['>'] [' ', ' '] line

/-- The characters of a text that are no arrow and no white space. -/
def inked (text : List Char) : List Char := (arrowless text).filter (!Text.isBlank ·)

/-- What the count of parameters sees of some lines. -/
def visible (lines : List Line) : List Char := lines.flatMap fun line => inked (withoutNoise line)

theorem not_mem_arrowless (h : c ∉ text) (hblank : c ≠ ' ') : c ∉ arrowless text := fun hmem =>
  (Text.mem_of_mem_replaceAll hmem).elim (fun hspace => by simp [hblank] at hspace) h

theorem arrowless_cons (h : c ≠ '-') (rest : List Char) : arrowless (c :: rest) = c :: arrowless rest :=
  Text.replaceAll_cons fun hprefix => h (List.cons_prefix_cons.1 hprefix).1.symm

/-- No arrow ends with another character than its second one. -/
theorem arrowless_append (front : List Char) (h : text.head? ≠ some '>') :
    arrowless (front ++ text) = arrowless front ++ arrowless text :=
  Text.replaceAll_append fun _ => h

def isOpening (c : Char) : Bool := c == '(' || c == '<' || c == '['

def isClosing (c : Char) : Bool := c == ')' || c == '>' || c == ']'

theorem isClosing_of_isOpening (h : isOpening c = true) : isClosing c = false := by
  simp only [isOpening, Bool.or_eq_true, beq_iff_eq] at h
  rcases h with (rfl | rfl) | rfl <;> rfl

theorem isBlank_of_isOpening (h : isOpening c = true) : Text.isBlank c = false := by
  simp only [isOpening, Bool.or_eq_true, beq_iff_eq] at h
  rcases h with (rfl | rfl) | rfl <;> rfl

theorem isBlank_of_isClosing (h : isClosing c = true) : Text.isBlank c = false := by
  simp only [isClosing, Bool.or_eq_true, beq_iff_eq] at h
  rcases h with (rfl | rfl) | rfl <;> rfl

namespace ParameterScan

variable (scan : ParameterScan)

/-- The number of parameters in the end, whether the list has closed or not. -/
def result : Except Nat ParameterScan → Nat
  | .error count => count
  | .ok scan => scan.count

/-- The number of parameters of a text that starts with the opening parenthesis. -/
def counted (text : List Char) : Nat := result (text.foldlM next ⟨0, 0, false⟩)

theorem next_eq (c : Char) : scan.next c =
    if isOpening c then
      .ok { scan with depth := scan.depth + 1, filled := scan.filled || !(scan.depth = 0 && c == '(') }
    else if isClosing c then
      if scan.depth = 1 then .error scan.count
      else .ok { scan with depth := scan.depth - 1, filled := true }
    else if scan.depth = 1 && c == ',' then .ok ⟨scan.depth, scan.commas + 1, false⟩
    else .ok { scan with filled := scan.filled || !Text.isBlank c } := rfl

theorem next_blank (h : Text.isBlank c = true) : scan.next c = .ok scan := by
  have hopens : ¬isOpening c = true := fun hopens => by
    rw [isBlank_of_isOpening hopens] at h
    cases h
  have hcloses : ¬isClosing c = true := fun hcloses => by
    rw [isBlank_of_isClosing hcloses] at h
    cases h
  have hseparates : ¬(decide (scan.depth = 1) && c == ',') = true := fun hseparates => by
    rw [eq_of_beq (Bool.and_eq_true_iff.1 hseparates).2] at h
    cases h
  rw [next_eq, if_neg hopens, if_neg hcloses, if_neg hseparates, h, Bool.not_true, Bool.or_false]

theorem foldlM_next_filter (text : List Char) :
    (text.filter (!Text.isBlank ·)).foldlM next scan = text.foldlM next scan := by
  rw [List.foldlM_filter]
  refine congrArg (fun step => text.foldlM step scan) (funext fun scan => funext fun c => ?_)
  cases hblank : Text.isBlank c with
  | false => rfl
  | true => exact (scan.next_blank hblank).symm

theorem foldlM_nextLine (lines : List Line) :
    lines.foldlM (fun scan line => scan.nextLine (withoutNoise line)) scan =
      (lines.flatMap fun line => arrowless (withoutNoise line)).foldlM next scan := by
  induction lines generalizing scan with
  | nil => rfl
  | cons line rest ih =>
    rw [List.foldlM_cons, List.flatMap_cons, List.foldlM_append]
    exact congrArg (fun onward => scan.nextLine (withoutNoise line) >>= onward) (funext fun next => ih next)

theorem total_eq (lines : List Line) : scan.total lines =
    result ((lines.flatMap fun line => arrowless (withoutNoise line)).foldlM next scan) := by
  unfold total
  rw [foldlM_nextLine]
  cases (lines.flatMap fun line => arrowless (withoutNoise line)).foldlM next scan with
  | error count => rfl
  | ok scan => rfl

end ParameterScan

theorem visible_cons (line : Line) (rest : List Line) :
    visible (line :: rest) = inked (withoutNoise line) ++ visible rest := List.flatMap_cons

theorem visible_eq (lines : List Line) :
    visible lines = (lines.flatMap fun line => arrowless (withoutNoise line)).filter (!Text.isBlank ·) :=
  List.filter_flatMap.symm

theorem not_mem_inked (h : c ∉ text) (hblank : c ≠ ' ') : c ∉ inked text := fun hmem =>
  not_mem_arrowless h hblank (List.mem_of_mem_filter hmem)

theorem inked_nil : inked [] = [] := by
  rw [inked, arrowless, Text.replaceAll_nil, List.filter_nil]

theorem inked_append (front : List Char) (h : text.head? ≠ some '>') :
    inked (front ++ text) = inked front ++ inked text := by
  rw [inked, arrowless_append front h, List.filter_append, inked, inked]

theorem inked_append_cons (front : List Char) (hblank : Text.isBlank c = false) (hfirst : c ≠ '-')
    (hsecond : c ≠ '>') (rest : List Char) : inked (front ++ c :: rest) = inked front ++ c :: inked rest := by
  rw [inked_append front (by simpa using hsecond), inked, inked, arrowless_cons hfirst,
    List.filter_cons_of_pos (by rw [hblank]; rfl), inked]

theorem dropWhile_opening (h : '(' ∉ text) (rest : List Char) :
    (text ++ '(' :: rest).dropWhile (· != '(') = '(' :: rest := by
  rw [List.dropWhile_append_of_pos fun c hc => bne_iff_ne.2 (ne_of_mem_of_not_mem hc h)]
  rfl

/-- The count starts at the first parenthesis that is no noise. -/
theorem parameterCount_of_opening (hline : withoutNoise line = front ++ '(' :: text) (hfront : '(' ∉ front)
    (lines : List Line) : parameterCount (line :: lines) = ParameterScan.counted
      ('(' :: arrowless text ++ lines.flatMap fun line => arrowless (withoutNoise line)) := by
  have hopens : '(' ∈ withoutNoise line := hline ▸ List.mem_append_right front List.mem_cons_self
  have hopening : ParameterScan.nextLine ⟨0, 0, false⟩ ((withoutNoise line).dropWhile (· != '(')) =
      ('(' :: arrowless text).foldlM ParameterScan.next ⟨0, 0, false⟩ := by
    rw [hline, dropWhile_opening hfront]
    exact congrArg (List.foldlM ParameterScan.next _) (arrowless_cons (by decide) text)
  rw [parameterCount, List.dropWhile_cons_of_neg (by simpa using hopens), ParameterScan.counted,
    List.foldlM_append, ← hopening]
  dsimp only
  cases ParameterScan.nextLine ⟨0, 0, false⟩ ((withoutNoise line).dropWhile (· != '(')) with
  | error count => rfl
  | ok scan => exact scan.total_eq lines

/-- The count goes over the visible text from its first parenthesis on. -/
theorem parameterCount_eq (lines : List Line) :
    parameterCount lines = ParameterScan.counted ((visible lines).dropWhile (· != '(')) := by
  induction lines with
  | nil => rfl
  | cons line rest ih =>
    rw [visible_cons]
    by_cases hopens : '(' ∈ withoutNoise line
    · obtain ⟨front, back, hline, hfront⟩ := List.eq_append_cons_of_mem hopens
      have hopening : '(' ∉ inked front := not_mem_inked hfront (by decide)
      rw [parameterCount_of_opening hline hfront, ParameterScan.counted,
        ← ParameterScan.foldlM_next_filter, List.filter_append, ← visible_eq,
        List.filter_cons_of_pos (by decide), hline, inked_append_cons front rfl (by decide) (by decide),
        List.append_assoc, List.cons_append, List.cons_append, dropWhile_opening hopening]
      rfl
    · have hskip : parameterCount (line :: rest) = parameterCount rest := by
        rw [parameterCount, List.dropWhile_cons_of_pos (by simpa using hopens)]
        rfl
      rw [hskip, ih, List.dropWhile_append_of_pos fun c hc => bne_iff_ne.2
        (ne_of_mem_of_not_mem hc (not_mem_inked hopens (by decide)))]

theorem parameterCount_congr {others lines : List Line} (h : lines.map withoutNoise = others.map withoutNoise) :
    parameterCount lines = parameterCount others := by
  have hvisible : ∀ lines : List Line, visible lines = (lines.map withoutNoise).flatMap inked := by
    intro lines
    rw [visible, List.flatMap_map]
  rw [parameterCount_eq, parameterCount_eq, hvisible, hvisible, h]

/-! ### Measures -/

theorem length_withoutNoise_le (line : Line) : (withoutNoise line).length ≤ line.length := by
  have hliteral : ∀ passed rest : List Char, IsLiteral passed → ['"', '"'].length ≤ passed.length := by
    rintro _ - ⟨inner, -, rfl⟩
    refine Nat.succ_le_succ ?_
    rw [List.length_append]
    exact Nat.le_add_left 1 _
  exact (decides_lineComment.length_replaceAll_le (fun _ _ _ => Nat.zero_le _) _).trans
    (decides_stringLiteral.length_replaceAll_le hliteral line)

/-- A line has no more decision points than places, and no more than one arrow that counts. -/
theorem complexity_le (lines : List Line) : complexity lines ≤ 1 + 2 * Text.expanse lines := by
  have hfold : ∀ start, (lines.map withoutNoise).foldl (fun count line =>
      count + (decision.findAll line).length + (if isBranch line then 1 else 0)) start ≤
        start + 2 * Text.expanse lines := by
    induction lines with
    | nil => exact fun start => Nat.le_refl start
    | cons line rest ih =>
      intro start
      rw [List.map_cons, List.foldl_cons, Text.expanse_cons]
      refine (ih _).trans ?_
      have hpoints := length_findAll_le decision (withoutNoise line)
      have hlength := length_withoutNoise_le line
      split
      · omega
      · omega
  exact hfold 1

/-- No measure sees what a literal or a comment of a line holds. -/
theorem measures_of_alike (h : Alike line instead) (above below : List Line) :
    withoutNoise line = withoutNoise instead ∧
      complexity (above ++ line :: below) = complexity (above ++ instead :: below) ∧
      nesting (above ++ line :: below) = nesting (above ++ instead :: below) ∧
      ∀ start, parameterCount ((above ++ line :: below).drop start) =
        parameterCount ((above ++ instead :: below).drop start) := by
  have hline := withoutNoise_of_alike h
  have hlines : (above ++ line :: below).map withoutNoise = (above ++ instead :: below).map withoutNoise := by
    rw [List.map_append, List.map_append, List.map_cons, List.map_cons, hline]
  refine ⟨hline, ?_, ?_, fun start => parameterCount_congr ?_⟩
  · rw [complexity, complexity, hlines]
  · rw [nesting, nesting, hlines]
  · rw [List.map_drop, List.map_drop, hlines]

/-- A quoted text with an escaped quote, with two slashes and with a parenthesis. -/
theorem measures_of_alike_quoted :
    let line := "fun f(a: T = of(".toList ++ '"' :: (['\\', '"', '/', '/', '('] ++ '"' :: "))".toList)
    let instead := "fun f(a: T = of(".toList ++ '"' :: ([] ++ '"' :: "))".toList)
    Alike line instead ∧ withoutNoise line = withoutNoise instead ∧
      complexity [line] = complexity [instead] ∧ nesting [line] = nesting [instead] ∧
      ∀ start, parameterCount ([line].drop start) = parameterCount ([instead].drop start) := by
  intro line instead
  have halike : Alike line instead := .literal (complete_of_not_mem (by decide))
    (.escaped (by decide) (.plain (by decide) (by decide) (.plain (by decide) (by decide)
      (.plain (by decide) (by decide) .nil)))) .nil
  exact ⟨halike, measures_of_alike halike [] []⟩

end KotlinAudit.Source
