import KotlinAudit.Text.Lines
import Mathlib.Data.List.DropRight

/-! Texts made of lines. A line without line breaks, written with a line feed behind it, is a line of
the whole text, which is read with the same line feeds. Where a text does not end with a line break, what
is written behind it goes on with its last line. What has no line feed occurs in joined lines exactly if it
occurs in one of them. The breaks in front of a line are counted by its index, and those of them that are line
feeds by the index of the physical line that it stands on. -/
namespace KotlinAudit.Text

/-- No character of a text is marked. -/
def Free (marks : Char → Bool) (text : List Char) : Prop := ∀ c ∈ text, marks c = false

instance (marks : Char → Bool) (text : List Char) : Decidable (Free marks text) :=
  List.decidableBAll _ text

section Free

variable {marks : Char → Bool}

theorem Free.tail {c : Char} {rest : List Char} (h : Free marks (c :: rest)) : Free marks rest :=
  fun d hd => h d (List.mem_cons_of_mem _ hd)

theorem Free.append {first second : List Char} (h : Free marks first)
    (hsecond : Free marks second) : Free marks (first ++ second) :=
  fun c hc => (List.mem_append.1 hc).elim (h c) (hsecond c)

/-- Up to the first mark a text is determined. -/
theorem Free.append_cons_inj {text other rest more : List Char} {c d : Char} (htext : Free marks text)
    (hother : Free marks other) (hc : marks c = true) (hd : marks d = true)
    (h : text ++ c :: rest = other ++ d :: more) : text = other ∧ c = d ∧ rest = more := by
  have hcut : ∀ {text rest : List Char} {c : Char}, Free marks text → marks c = true →
      (text ++ c :: rest).takeWhile (!marks ·) = text := by
    intro text rest c htext hc
    rw [List.takeWhile_append_of_pos fun d hd => by rw [htext d hd]; rfl,
      List.takeWhile_cons_of_neg (by rw [hc]; exact Bool.false_ne_true), List.append_nil]
  have heq : text = other := by rw [← hcut htext hc, h, hcut hother hd]
  rw [heq] at h
  exact ⟨heq, List.cons.inj (List.append_cancel_left h)⟩

theorem Free.nil : Free marks [] := nofun

theorem Free.cons {c : Char} {rest : List Char} (hc : marks c = false) (h : Free marks rest) :
    Free marks (c :: rest) := by
  intro d hd
  rcases List.mem_cons.1 hd with rfl | hd
  · exact hc
  · exact h d hd

/-- A text with marks consists of what stands in front of the first one, the mark and the rest. -/
theorem Free.exists_mark {text : List Char} (h : ¬Free marks text) :
    ∃ front c rest, text = front ++ c :: rest ∧ Free marks front ∧ marks c = true := by
  induction text with
  | nil => exact absurd .nil h
  | cons c text ih =>
    by_cases hc : marks c = true
    · exact ⟨[], c, text, rfl, .nil, hc⟩
    · have hnone : marks c = false := Bool.eq_false_iff.2 hc
      obtain ⟨front, d, rest, rfl, hfront, hd⟩ := ih fun htext => h (.cons hnone htext)
      exact ⟨c :: front, d, rest, rfl, .cons hnone hfront, hd⟩

end Free

/-- Up to the first of certain characters a text is determined. -/
theorem append_cons_inj {text other rest more : List Char} {c : Char} (htext : c ∉ text) (hother : c ∉ other)
    (h : text ++ c :: rest = other ++ c :: more) : text = other ∧ rest = more := by
  have hfree : ∀ {text : List Char}, c ∉ text → Free (· == c) text :=
    fun htext d hd => beq_eq_false_iff_ne.2 (ne_of_mem_of_not_mem hd htext)
  obtain ⟨hsame, -, hrest⟩ :=
    (hfree htext).append_cons_inj (hfree hother) (beq_self_eq_true c) (beq_self_eq_true c) h
  exact ⟨hsame, hrest⟩

/-- No character of a text breaks lines. -/
abbrev Unbroken (text : List Char) : Prop := Free isLineBreak text

theorem ne_carriageReturn {c : Char} (h : isLineBreak c = false) : c ≠ '\r' := by
  rintro rfl
  exact absurd h (by decide)

theorem lines_cons {c : Char} (h : isLineBreak c = false) (rest : List Char) :
    lines (c :: rest) = match lines rest with
      | [] => [[c]]
      | line :: others => (c :: line) :: others := by
  rw [lines.eq_3 c rest fun _ hc => absurd hc (ne_carriageReturn h), h]
  rfl

theorem lines_break {c : Char} (h : isLineBreak c = true) (hreturn : c ≠ '\r') (rest : List Char) :
    lines (c :: rest) = [] :: lines rest := by
  rw [lines.eq_3 c rest fun _ hc => absurd hc hreturn, if_pos h]

/-- A line ends where the text breaks. -/
theorem lines_append_break {text : List Char} (h : Unbroken text) {c : Char}
    (hc : isLineBreak c = true) (hreturn : c ≠ '\r') (rest : List Char) :
    lines (text ++ c :: rest) = text :: lines rest := by
  induction text with
  | nil => exact lines_break hc hreturn rest
  | cons d text ih =>
    rw [List.cons_append, lines_cons (h d List.mem_cons_self), ih h.tail]

theorem lines_append {text : List Char} (h : Unbroken text) (rest : List Char) :
    lines (text ++ '\n' :: rest) = text :: lines rest :=
  lines_append_break h rfl (by decide) rest

/-- A text that does not break is its only line, if there is anything in it. -/
theorem lines_unbroken {text : List Char} (h : Unbroken text) :
    lines text = if text = [] then [] else [text] := by
  induction text with
  | nil => rfl
  | cons c text ih =>
    rw [lines_cons (h c List.mem_cons_self), ih h.tail, if_neg (List.cons_ne_nil c text)]
    by_cases htext : text = []
    · simp [htext]
    · simp [htext]

theorem lines_flatMap {texts : List (List Char)} (h : ∀ text ∈ texts, Unbroken text) :
    lines (texts.flatMap fun text => text ++ ['\n']) = texts := by
  induction texts with
  | nil => rfl
  | cons text texts ih =>
    rw [List.flatMap_cons, List.append_assoc, List.singleton_append,
      lines_append (h text List.mem_cons_self), ih fun text ht => h text (List.mem_cons_of_mem _ ht)]

theorem withLineFeeds_cons {c : Char} (h : c ≠ '\r') (rest : List Char) :
    withLineFeeds (c :: rest) = c :: withLineFeeds rest := by
  rw [withLineFeeds.eq_3 c rest fun _ hc => absurd hc h,
    if_neg (by rwa [beq_iff_eq])]

/-- A text without carriage returns is read as it is. -/
theorem withLineFeeds_eq {text : List Char} (h : '\r' ∉ text) : withLineFeeds text = text := by
  induction text with
  | nil => rfl
  | cons c text ih =>
    rw [withLineFeeds_cons (fun hc => h (hc ▸ List.mem_cons_self)),
      ih fun hmem => h (List.mem_cons_of_mem _ hmem)]

theorem notMem_of_unbroken {text : List Char} (h : Unbroken text) : '\r' ∉ text :=
  fun hmem => ne_carriageReturn (h _ hmem) rfl

/-! ### The last line -/

/-- The text behind the last line break. -/
def openLine (text : List Char) : List Char := text.rtakeWhile fun c => !isLineBreak c

/-- A text that is empty or ends with a line break. -/
def Closed (text : List Char) : Prop := ∀ c ∈ text.getLast?, isLineBreak c = true

theorem unbroken_openLine (text : List Char) : Unbroken (openLine text) := by
  intro c hc
  have hopen := List.mem_rtakeWhile_imp hc
  simpa using hopen

/-- A text is made of lines that are closed and of its last line. -/
theorem exists_closed (text : List Char) : ∃ front, Closed front ∧ text = front ++ openLine text := by
  refine ⟨text.rdropWhile fun c => !isLineBreak c, fun c hc => ?_, ?_⟩
  · by_cases hfront : (text.rdropWhile fun c => !isLineBreak c) = []
    · rw [hfront] at hc
      cases hc
    · have hlast := List.rdropWhile_last_not (fun c => !isLineBreak c) text hfront
      rw [List.getLast?_eq_some_getLast hfront] at hc
      cases hc
      simpa using hlast
  · exact List.rdropWhile_append_rtakeWhile.symm

theorem Closed.tail {c d : Char} {rest : List Char} (h : Closed (c :: d :: rest)) :
    Closed (d :: rest) := by
  rwa [Closed, List.getLast?_cons_cons] at h

theorem lines_ne_nil {text : List Char} (h : text ≠ []) : lines text ≠ [] := by
  fun_cases lines text with
  | case1 => exact absurd rfl h
  | case2 => exact List.cons_ne_nil _ _
  | case3 => exact List.cons_ne_nil _ _
  | case4 => exact List.cons_ne_nil _ _
  | case5 => exact List.cons_ne_nil _ _

/-- The lines of a closed text stay as they are when something is written behind it. -/
theorem lines_append_of_closed {text : List Char} (h : Closed text) (hreturn : '\r' ∉ text)
    (rest : List Char) : lines (text ++ rest) = lines text ++ lines rest := by
  induction text with
  | nil => rfl
  | cons c text ih =>
    rw [List.mem_cons, not_or] at hreturn
    have hc : c ≠ '\r' := fun heq => hreturn.1 heq.symm
    by_cases hbreak : isLineBreak c = true
    · have hclosed : Closed text := by
        cases text with
        | nil => exact nofun
        | cons d text => exact h.tail
      rw [List.cons_append, lines_break hbreak hc, lines_break hbreak hc, ih hclosed hreturn.2,
        List.cons_append]
    · cases text with
      | nil => exact absurd (h c rfl) hbreak
      | cons d text =>
        have hnone : isLineBreak c = false := Bool.eq_false_iff.2 hbreak
        rw [List.cons_append, lines_cons hnone, lines_cons hnone, ih h.tail hreturn.2]
        obtain ⟨line, others, hlines⟩ := List.exists_cons_of_ne_nil
          (lines_ne_nil (List.cons_ne_nil d text))
        rw [hlines]
        rfl

/-- A text that breaks consists of its first line, a line break and the rest. -/
theorem exists_break {text : List Char} (h : ¬Unbroken text) :
    ∃ front c rest, text = front ++ c :: rest ∧ Unbroken front ∧ isLineBreak c = true :=
  Free.exists_mark h

/-- What does not break and begins a text stands in front of the first break. -/
theorem isPrefix_of_break {quiet more front rest : List Char} {c : Char} (h : Unbroken quiet)
    (hc : isLineBreak c = true) (hsame : front ++ c :: rest = quiet ++ more) : quiet <+: front := by
  rcases List.append_eq_append_iff.1 hsame with ⟨gap, hgap, hmore⟩ | ⟨gap, hgap, -⟩
  · cases gap with
    | nil =>
      rw [List.append_nil] at hgap
      exact hgap ▸ List.prefix_refl front
    | cons d gap =>
      obtain ⟨rfl, -⟩ := List.cons.inj hmore
      have hd := h c (hgap ▸ List.mem_append_right front List.mem_cons_self)
      rw [hc] at hd
      cases hd
  · exact ⟨gap, hgap.symm⟩

/-- A text that does not break does not begin with a line feed. -/
theorem head?_append_ne {text rest : List Char} (h : Unbroken text) (hrest : rest.head? ≠ some '\n') :
    (text ++ rest).head? ≠ some '\n' := by
  cases text with
  | nil => exact hrest
  | cons c more =>
    rintro heq
    cases heq
    have hbreak := h '\n' List.mem_cons_self
    cases hbreak

theorem return_notMem_withLineFeeds (text : List Char) : '\r' ∉ withLineFeeds text := by
  fun_induction withLineFeeds text with
  | case1 => exact List.not_mem_nil
  | case2 rest ih => simp [ih]
  | case3 c rest _ ih =>
    rw [List.mem_cons, not_or]
    refine ⟨?_, ih⟩
    split
    · decide
    · next hc => exact fun heq => hc (by simp [← heq])

theorem withLineFeeds_append {text rest : List Char} (h : rest.head? ≠ some '\n') :
    withLineFeeds (text ++ rest) = withLineFeeds text ++ withLineFeeds rest := by
  fun_induction withLineFeeds text with
  | case1 => rfl
  | case2 text ih => rw [List.cons_append, List.cons_append, withLineFeeds, ih, List.cons_append]
  | case3 c text hc ih =>
    rw [List.cons_append, withLineFeeds.eq_3 c (text ++ rest) ?_, ih, List.cons_append]
    rintro more rfl hmore
    cases text with
    | nil =>
      rw [List.nil_append] at hmore
      exact h (by rw [hmore]; rfl)
    | cons d text =>
      obtain ⟨rfl, -⟩ := List.cons.inj hmore
      exact hc text rfl rfl

theorem getLast?_withLineFeeds (text : List Char) : (withLineFeeds text).getLast? =
    text.getLast?.map fun c => if c == '\r' then '\n' else c := by
  fun_induction withLineFeeds text with
  | case1 => rfl
  | case2 rest ih =>
    rw [List.getLast?_cons, List.getLast?_cons, List.getLast?_cons, ih]
    cases rest.getLast? <;> rfl
  | case3 c rest hc ih =>
    rw [List.getLast?_cons, List.getLast?_cons, ih]
    cases rest.getLast? <;> rfl

/-- A closed text is still closed when it is read with line feeds. -/
theorem Closed.withLineFeeds {text : List Char} (h : Closed text) :
    Closed (Text.withLineFeeds text) := by
  intro c hc
  rw [getLast?_withLineFeeds] at hc
  obtain ⟨last, hlast, rfl⟩ := Option.map_eq_some_iff.1 hc
  split
  · rfl
  · exact h last hlast

/-! ### Trimming -/

theorem mem_dropWhile {drop : Char → Bool} {text : List Char} {c : Char} (hmem : c ∈ text)
    (h : drop c = false) : c ∈ text.dropWhile drop := by
  induction text with
  | nil => cases hmem
  | cons d text ih =>
    rw [List.dropWhile_cons]
    split
    · next hd =>
      rcases List.mem_cons.1 hmem with rfl | hmem
      · rw [h] at hd
        cases hd
      · exact ih hmem
    · exact hmem

/-- A text with something in it that is not trimmed is not trimmed away. -/
theorem isEmpty_trim {text : List Char} {c : Char} (hmem : c ∈ text) (h : isBlank c = false) :
    (trim text).isEmpty = false := by
  rw [List.isEmpty_eq_false_iff_exists_mem]
  refine ⟨c, ?_⟩
  rw [trim, trimBy, trimRight, trimLeft, List.mem_reverse]
  refine mem_dropWhile ?_ h
  rw [List.mem_reverse]
  exact mem_dropWhile hmem h

theorem dropWhile_append_cons {drop : Char → Bool} {c : Char} (h : drop c = false) (front rest : List Char) :
    (front ++ c :: rest).dropWhile drop = front.dropWhile drop ++ c :: rest := by
  induction front with
  | nil => exact List.dropWhile_cons_of_neg (by rw [h]; exact Bool.false_ne_true)
  | cons d front ih =>
    rw [List.cons_append, List.dropWhile_cons, List.dropWhile_cons]
    split
    · exact ih
    · rfl

/-- Trimming leaves what stands between two characters that are not blank. -/
theorem exists_trim_eq {c d : Char} (hc : isBlank c = false) (hd : isBlank d = false)
    (lead middle trail : List Char) : ∃ front back, front <:+ lead ∧ back <+: trail ∧
      trim (lead ++ c :: (middle ++ d :: trail)) = front ++ c :: (middle ++ d :: back) := by
  refine ⟨lead.dropWhile isBlank, (trail.reverse.dropWhile isBlank).reverse, List.dropWhile_suffix _, ?_, ?_⟩
  · rw [← List.reverse_suffix, List.reverse_reverse]
    exact List.dropWhile_suffix _
  · have hreverse : (lead.dropWhile isBlank ++ c :: (middle ++ d :: trail)).reverse =
        trail.reverse ++ d :: (middle.reverse ++ c :: (lead.dropWhile isBlank).reverse) := by simp
    rw [trim, trimBy, trimLeft, trimRight, dropWhile_append_cons hc, hreverse, dropWhile_append_cons hd]
    simp

/-- Trimming leaves a text that has something else than blanks at both ends. -/
theorem trim_append {lead text trail : List Char} (hlead : ∀ c ∈ lead, isBlank c = true)
    (htrail : ∀ c ∈ trail, isBlank c = true) (hne : text ≠ []) (hhead : ∀ c ∈ text.head?, isBlank c = false)
    (hlast : ∀ c ∈ text.getLast?, isBlank c = false) : trim (lead ++ (text ++ trail)) = text := by
  have hkept : ∀ {text : List Char} (rest : List Char), text ≠ [] → (∀ c ∈ text.head?, isBlank c = false) →
      (text ++ rest).dropWhile isBlank = text ++ rest := by
    intro text rest hne hhead
    obtain ⟨c, more, rfl⟩ := List.exists_cons_of_ne_nil hne
    exact List.dropWhile_cons_of_neg (by rw [hhead c rfl]; exact Bool.false_ne_true)
  have hlastKept := hkept [] (mt List.reverse_eq_nil_iff.1 hne) fun c hc => hlast c (List.head?_reverse ▸ hc)
  rw [trim, trimBy, trimLeft, List.dropWhile_append_of_pos hlead, hkept trail hne hhead, trimRight,
    List.reverse_append, List.dropWhile_append_of_pos fun c hc => htrail c (List.mem_reverse.1 hc)]
  rw [List.append_nil] at hlastKept
  rw [hlastKept, List.reverse_reverse]

theorem getLast?_trim (text : List Char) : ∀ c ∈ (trim text).getLast?, isBlank c = false := by
  intro c hc
  have hne : (trimLeft isBlank text).rdropWhile isBlank ≠ [] := by
    intro hnil
    rw [show (trim text).getLast? = ((trimLeft isBlank text).rdropWhile isBlank).getLast? from rfl, hnil] at hc
    cases hc
  have hlast := List.rdropWhile_last_not isBlank _ hne
  have hsome : some ((trimLeft isBlank text).rdropWhile isBlank |>.getLast hne) = some c := by
    rw [← List.getLast?_eq_some_getLast]
    exact hc
  rw [Option.some_inj.1 hsome] at hlast
  exact Bool.eq_false_iff.2 hlast

/-- A text is what stands between its blanks, with the blanks. -/
theorem exists_trail (text : List Char) : ∃ trail, (∀ c ∈ trail, isBlank c = true) ∧
    text = text.takeWhile isBlank ++ (trim text ++ trail) := by
  refine ⟨(trimLeft isBlank text).rtakeWhile isBlank, fun c => List.mem_rtakeWhile_imp, ?_⟩
  have hsplit : trim text ++ (trimLeft isBlank text).rtakeWhile isBlank = text.dropWhile isBlank :=
    List.rdropWhile_append_rtakeWhile
  rw [hsplit, List.takeWhile_append_dropWhile]

theorem isBlank_of_isLineBreak {c : Char} (h : isLineBreak c = true) : isBlank c = true := by
  simp only [isLineBreak, isBlank, isSpace, Bool.or_eq_true, Bool.and_eq_true, decide_eq_true_eq, beq_iff_eq] at h ⊢
  omega

/-! ### Texts in others -/

theorem isSome_find?_iff {needle text : List Char} :
    (find? needle text).isSome = true ↔ needle <:+: text := by
  induction text with
  | nil => cases needle <;> simp [find?]
  | cons c rest ih =>
    rw [find?, List.infix_cons_iff, ← List.isPrefixOf_iff_prefix, ← ih]
    split
    · next h => simp [h]
    · next h => simp [h]

theorem contains_iff {needle text : List Char} : contains needle text = true ↔ needle <:+: text := by
  induction text with
  | nil => rw [contains, List.isEmpty_iff, List.infix_nil]
  | cons c rest ih => rw [contains, Bool.or_eq_true, List.isPrefixOf_iff_prefix, ih, List.infix_cons_iff]

/-- What does not hold a character begins a text in front of it. -/
theorem prefix_append_cons_iff {c : Char} {needle : List Char} (h : c ∉ needle) {front rest : List Char} :
    needle <+: front ++ c :: rest ↔ needle <+: front := by
  constructor
  · rintro ⟨more, heq⟩
    rcases List.append_eq_append_iff.1 heq with ⟨gap, rfl, -⟩ | ⟨gap, hneedle, hrest⟩
    · exact List.prefix_append needle gap
    · cases gap with
      | nil => exact (hneedle.trans (List.append_nil front)) ▸ List.prefix_refl _
      | cons d gap =>
        obtain ⟨rfl, -⟩ := List.cons.inj hrest
        exact absurd (hneedle ▸ List.mem_append_right front List.mem_cons_self) h
  · exact fun hin => hin.trans (List.prefix_append front _)

theorem trim_isInfix (text : List Char) : trim text <:+: text := by
  have hleft : trimLeft isBlank text <:+ text := List.dropWhile_suffix _
  have hright : trimRight isBlank (trimLeft isBlank text) <+: trimLeft isBlank text := by
    rw [← List.reverse_suffix, trimRight, List.reverse_reverse]
    exact List.dropWhile_suffix _
  exact hright.isInfix.trans hleft.isInfix

section Join

variable {needle : List Char} {separator : Char}

/-- A text without the separator does not run over it. -/
theorem infix_append_cons_iff (h : separator ∉ needle) {first second : List Char} :
    needle <:+: first ++ separator :: second ↔ needle <:+: first ∨ needle <:+: second := by
  constructor
  · intro hin
    rcases List.infix_append_iff.1 hin with hfirst | hsecond | ⟨front, back, rfl, hfront, hback⟩
    · exact .inl hfirst
    · rcases List.infix_cons_iff.1 hsecond with hhead | hsecond
      · cases needle with
        | nil => exact .inl List.nil_infix
        | cons c rest =>
          obtain ⟨rfl, -⟩ := List.cons_prefix_cons.1 hhead
          exact absurd List.mem_cons_self h
      · exact .inr hsecond
    · -- What lies on both sides would hold the separator.
      cases back with
      | nil => exact .inl (by simpa using hfront.isInfix)
      | cons c rest =>
        obtain ⟨rfl, -⟩ := List.cons_prefix_cons.1 hback
        exact absurd (List.mem_append_right front List.mem_cons_self) h
  · rintro (hfirst | hsecond)
    · exact List.infix_append_of_infix_left hfirst
    · exact List.infix_append_of_infix_right (List.infix_cons hsecond)

theorem join_cons_cons (piece next : List Char) (others : List (List Char)) :
    join [separator] (piece :: next :: others) =
      piece ++ separator :: join [separator] (next :: others) := by
  simp [join, List.intercalate]

theorem join_append {front back : List (List Char)} (hfront : front ≠ []) (hback : back ≠ []) :
    join [separator] (front ++ back) = join [separator] front ++ separator :: join [separator] back := by
  induction front with
  | nil => exact absurd rfl hfront
  | cons piece front ih =>
    cases front with
    | nil =>
      obtain ⟨next, others, rfl⟩ := List.exists_cons_of_ne_nil hback
      simp [join, List.intercalate]
    | cons next others =>
      rw [List.cons_append, List.cons_append, join_cons_cons, join_cons_cons, ← List.cons_append,
        ih (List.cons_ne_nil _ _), List.append_assoc]
      rfl

theorem join_isPrefix {front lines : List (List Char)} (h : front <+: lines) :
    join [separator] front <+: join [separator] lines := by
  obtain ⟨back, rfl⟩ := h
  by_cases hfront : front = []
  · rw [hfront]
    exact List.nil_prefix
  by_cases hback : back = []
  · refine ⟨[], ?_⟩
    rw [hback, List.append_nil, List.append_nil]
  · rw [join_append hfront hback]
    exact List.prefix_append _ _

theorem exists_join_cons_eq (separator : Char) (piece : List Char) (others : List (List Char)) :
    ∃ rest, join [separator] (piece :: others) = piece ++ rest := by
  cases others with
  | nil => exact ⟨[], by simp [join, List.intercalate]⟩
  | cons next others => exact ⟨_, join_cons_cons piece next others⟩

theorem join_append_cons (front back : List Char) (others : List (List Char)) :
    join [separator] ((front ++ separator :: back) :: others) =
      join [separator] (front :: back :: others) := by
  cases others <;> simp [join, List.intercalate]

theorem infix_join_iff (hne : needle ≠ []) (h : separator ∉ needle) {pieces : List (List Char)} :
    needle <:+: join [separator] pieces ↔ ∃ piece ∈ pieces, needle <:+: piece := by
  induction pieces with
  | nil => simp [join, List.intercalate, hne]
  | cons piece rest ih =>
    cases rest with
    | nil => simp [join, List.intercalate]
    | cons next others =>
      rw [join_cons_cons, infix_append_cons_iff h, ih]
      exact (List.exists_mem_cons_iff _ piece _).symm

end Join

/-- No line has a line break. -/
theorem unbroken_of_mem_lines {text line : List Char} (h : line ∈ lines text) : Unbroken line := by
  induction text using lines.induct generalizing line with
  | case1 => exact absurd h List.not_mem_nil
  | case2 rest ih =>
    rw [lines] at h
    rcases List.mem_cons.1 h with rfl | h
    · exact .nil
    · exact ih h
  | case3 c rest hreturn hbreak ih =>
    rw [lines.eq_3 c rest hreturn, if_pos hbreak] at h
    rcases List.mem_cons.1 h with rfl | h
    · exact .nil
    · exact ih h
  | case4 c rest hreturn hbreak hrest ih =>
    rw [lines.eq_3 c rest hreturn, if_neg hbreak, hrest] at h
    obtain rfl := List.mem_singleton.1 h
    exact .cons (Bool.eq_false_iff.2 hbreak) .nil
  | case5 c rest hreturn hbreak first others hrest ih =>
    rw [lines.eq_3 c rest hreturn, if_neg hbreak, hrest] at h
    rcases List.mem_cons.1 h with rfl | h
    · exact .cons (Bool.eq_false_iff.2 hbreak) (ih (hrest ▸ List.mem_cons_self))
    · exact ih (hrest ▸ List.mem_cons_of_mem _ h)

/-! ### How much room lines take -/

/-- How many characters some lines take when there is a break behind each of them. -/
def expanse : List Line → Nat
  | [] => 0
  | line :: rest => line.length + 1 + expanse rest

theorem expanse_cons (line : Line) (rest : List Line) :
    expanse (line :: rest) = line.length + 1 + expanse rest := rfl

theorem length_le_expanse (lines : List Line) : lines.length ≤ expanse lines := by
  induction lines with
  | nil => exact Nat.le_refl 0
  | cons line rest ih =>
    rw [expanse_cons, List.length_cons]
    omega

theorem expanse_le_of_sublist {part whole : List Line} (h : part.Sublist whole) :
    expanse part ≤ expanse whole := by
  induction h with
  | slnil => exact Nat.le_refl 0
  | cons line _ ih =>
    rw [expanse_cons]
    omega
  | cons_cons line _ ih =>
    rw [expanse_cons, expanse_cons]
    omega

/-- Only behind the last line of a text there may be no break. -/
theorem expanse_lines_le (text : List Char) : expanse (lines text) ≤ text.length + 1 := by
  induction text using lines.induct with
  | case1 => exact Nat.zero_le 1
  | case2 rest ih =>
    rw [lines, expanse_cons, List.length_nil, List.length_cons, List.length_cons]
    omega
  | case3 c rest hreturn hbreak ih =>
    rw [lines.eq_3 c rest hreturn, if_pos hbreak, expanse_cons, List.length_nil, List.length_cons]
    omega
  | case4 c rest hreturn hbreak hrest ih =>
    rw [lines.eq_3 c rest hreturn, if_neg hbreak, hrest, expanse_cons, List.length_singleton, List.length_cons]
    exact Nat.le_add_left 2 _
  | case5 c rest hreturn hbreak first others hrest ih =>
    rw [hrest, expanse_cons] at ih
    rw [lines.eq_3 c rest hreturn, if_neg hbreak, hrest, expanse_cons, List.length_cons, List.length_cons]
    omega

/-! ### Where a line stands -/

/-- What stands in front of a line, by the index of the line. -/
def front : List Char → Nat → List Char
  | _, 0 => []
  | [], _ + 1 => []
  | '\r' :: '\n' :: rest, index + 1 => '\r' :: '\n' :: front rest index
  | c :: rest, index + 1 => c :: front rest (if isLineBreak c then index else index + 1)

/-- How many breaks a text has besides its line feeds. A carriage return before a line feed is part of
that break. -/
def otherBreaks : List Char → Nat
  | [] => 0
  | '\r' :: '\n' :: rest => otherBreaks rest
  | c :: rest => (if isLineBreak c && c != '\n' then 1 else 0) + otherBreaks rest

section Standing

variable {text rest : List Char} {index : Nat} {line : Line}

theorem getElem?_lines_succ {c : Char} (hreturn : ∀ others, c = '\r' → rest = '\n' :: others → False) :
    (lines (c :: rest))[index + 1]? = (lines rest)[if isLineBreak c then index else index + 1]? := by
  rw [lines.eq_3 c rest hreturn]
  by_cases hbreak : isLineBreak c = true
  · rw [if_pos hbreak, if_pos hbreak, List.getElem?_cons_succ]
  · rw [if_neg hbreak, if_neg hbreak]
    cases lines rest with
    | nil => rfl
    | cons first others => rw [List.getElem?_cons_succ, List.getElem?_cons_succ]

theorem isPrefix_of_head? (h : (lines text)[0]? = some line) : line <+: text := by
  induction text using lines.induct generalizing line with
  | case1 => cases h
  | case2 rest ih =>
    rw [lines] at h
    cases h
    exact List.nil_prefix
  | case3 c rest hreturn hbreak ih =>
    rw [lines.eq_3 c rest hreturn, if_pos hbreak] at h
    cases h
    exact List.nil_prefix
  | case4 c rest hreturn hbreak hrest ih =>
    rw [lines.eq_3 c rest hreturn, if_neg hbreak, hrest] at h
    cases h
    exact List.cons_prefix_cons.2 ⟨rfl, List.nil_prefix⟩
  | case5 c rest hreturn hbreak first others hrest ih =>
    rw [lines.eq_3 c rest hreturn, if_neg hbreak, hrest] at h
    cases h
    exact List.cons_prefix_cons.2 ⟨rfl, ih (by rw [hrest]; rfl)⟩

/-- A line follows what stands in front of it. -/
theorem front_append_isPrefix (h : (lines text)[index]? = some line) : front text index ++ line <+: text := by
  induction text, index using front.induct with
  | case1 text =>
    rw [front]
    exact isPrefix_of_head? h
  | case2 index => cases h
  | case3 rest index ih =>
    rw [lines] at h
    rw [front]
    exact List.cons_prefix_cons.2 ⟨rfl, List.cons_prefix_cons.2 ⟨rfl, ih h⟩⟩
  | case4 c rest index hreturn ih =>
    rw [getElem?_lines_succ hreturn] at h
    rw [front.eq_4 c rest index hreturn]
    exact List.cons_prefix_cons.2 ⟨rfl, ih h⟩

theorem lines_head?_eq_nil_iff : (lines text)[0]? = some [] ↔ text ≠ [] ∧ ∀ c ∈ text.head?, isLineBreak c = true := by
  fun_cases lines text with
  | case1 => simp
  | case2 rest => simp [isLineBreak]
  | case3 c rest hreturn hbreak => simp [hbreak]
  | case4 c rest hreturn hbreak hrest => simp [hbreak]
  | case5 c rest hreturn hbreak first others hrest => simp [hbreak]

/-- A text has a line in front exactly if it breaks or ends behind it. -/
theorem lines_head?_iff : (lines (line ++ rest))[0]? = some line ↔
    Unbroken line ∧ (∀ c ∈ rest.head?, isLineBreak c = true) ∧ line ++ rest ≠ [] := by
  induction line with
  | nil =>
    rw [List.nil_append, lines_head?_eq_nil_iff, and_comm]
    exact (and_iff_right Free.nil).symm
  | cons c line ih =>
    have hcons : Unbroken (c :: line) ↔ isLineBreak c = false ∧ Unbroken line :=
      ⟨fun h => ⟨h c List.mem_cons_self, h.tail⟩, fun h => .cons h.1 h.2⟩
    by_cases hbreak : isLineBreak c = true
    · refine iff_of_false (fun h => ?_) fun h => by rw [h.1 c List.mem_cons_self] at hbreak; cases hbreak
      rw [unbroken_of_mem_lines (List.mem_of_getElem? h) c List.mem_cons_self] at hbreak
      cases hbreak
    · have hnone : isLineBreak c = false := Bool.eq_false_iff.2 hbreak
      rw [List.cons_append, lines_cons hnone, hcons]
      by_cases hempty : line ++ rest = []
      · obtain ⟨rfl, rfl⟩ := List.append_eq_nil_iff.1 hempty
        simp [lines, hnone, Free]
      · obtain ⟨first, others, hlines⟩ := List.exists_cons_of_ne_nil (lines_ne_nil hempty)
        rw [hlines] at ih ⊢
        simpa [hnone, hempty] using ih

/-- With another line in place of one the text has that line at its index. -/
theorem getElem?_lines_replaced {fresh : Line} (h : (lines text)[index]? = some line)
    (hrest : text = front text index ++ (line ++ rest)) (hfresh : Unbroken fresh) (hne : fresh ≠ []) :
    (lines (front text index ++ (fresh ++ rest)))[index]? = some fresh := by
  induction text, index using front.induct with
  | case1 text =>
    rw [front, List.nil_append] at hrest ⊢
    rw [hrest] at h
    exact lines_head?_iff.2 ⟨hfresh, (lines_head?_iff.1 h).2.1, List.append_ne_nil_of_left_ne_nil hne _⟩
  | case2 index => cases h
  | case3 more index ih =>
    rw [lines] at h
    rw [front] at hrest ⊢
    rw [List.cons_append, List.cons_append, List.cons.injEq, List.cons.injEq] at hrest
    exact ih h hrest.2.2
  | case4 c more index hreturn ih =>
    rw [getElem?_lines_succ hreturn] at h
    rw [front.eq_4 c more index hreturn] at hrest ⊢
    obtain ⟨-, hmore⟩ := List.cons.inj hrest
    -- Behind a carriage return no line feed comes, neither one from the text nor one from the line.
    have hkept : ∀ others, c = '\r' →
        front more (if isLineBreak c then index else index + 1) ++ (fresh ++ rest) = '\n' :: others → False := by
      intro others hc hothers
      rcases List.append_eq_cons_iff.1 hothers with ⟨-, hothers⟩ | ⟨front, hfront, -⟩
      · obtain ⟨first, fresh, rfl⟩ := List.exists_cons_of_ne_nil hne
        obtain ⟨rfl, -⟩ := List.cons.inj hothers
        exact absurd (hfresh '\n' List.mem_cons_self) (by decide)
      · rw [hfront] at hmore
        exact hreturn _ hc hmore
    rw [List.cons_append, getElem?_lines_succ hkept]
    exact ih h hmore

/-- The number of the breaks in front of a line is its index. -/
theorem index_eq_count (h : (lines text)[index]? = some line) :
    index = (front text index).count '\n' + otherBreaks (front text index) := by
  induction text, index using front.induct with
  | case1 text =>
    rw [front]
    rfl
  | case2 index => cases h
  | case3 rest index ih =>
    rw [lines] at h
    have hrest := ih h
    rw [front, otherBreaks, List.count_cons_of_ne (by decide), List.count_cons_self]
    omega
  | case4 c rest index hreturn ih =>
    rw [getElem?_lines_succ hreturn] at h
    have hrest := ih h
    -- What stands in front starts as the text does.
    have hfront : ∀ others, c = '\r' →
        front rest (if isLineBreak c then index else index + 1) = '\n' :: others → False := by
      intro others hc hothers
      obtain ⟨more, hmore⟩ := (List.prefix_append _ line).trans (front_append_isPrefix h)
      rw [hothers, List.cons_append] at hmore
      exact hreturn _ hc hmore.symm
    rw [front.eq_4 c rest index hreturn, otherBreaks.eq_3 c _ hfront]
    generalize front rest (if isLineBreak c then index else index + 1) = later at hrest
    by_cases hfeed : c = '\n'
    · subst hfeed
      rw [if_pos (show isLineBreak '\n' = true from rfl)] at hrest
      rw [List.count_cons_self, bne_self_eq_false, Bool.and_false, if_neg Bool.false_ne_true]
      omega
    · rw [List.count_cons_of_ne hfeed, bne_iff_ne.2 hfeed, Bool.and_true]
      cases hbreak : isLineBreak c with
      | true =>
        rw [hbreak, if_pos rfl] at hrest
        rw [if_pos rfl]
        omega
      | false =>
        rw [hbreak, if_neg Bool.false_ne_true] at hrest
        rw [if_neg Bool.false_ne_true]
        omega

theorem exists_splitAll_cons (isSeparator : Char → Bool) (text : List Char) :
    ∃ piece pieces, splitAll isSeparator text = piece :: pieces := by
  cases text with
  | nil => exact ⟨[], [], rfl⟩
  | cons c rest =>
    rw [splitAll]
    split
    · exact ⟨_, _, rfl⟩
    split
    · exact ⟨_, _, rfl⟩
    · exact ⟨_, _, rfl⟩

theorem exists_splitAll_append {isSeparator : Char → Bool} (h : Free isSeparator line) (rest : List Char) :
    ∃ piece pieces, splitAll isSeparator (line ++ rest) = (line ++ piece) :: pieces := by
  induction line with
  | nil => exact exists_splitAll_cons isSeparator rest
  | cons c line ih =>
    obtain ⟨piece, pieces, hpieces⟩ := ih h.tail
    refine ⟨piece, pieces, ?_⟩
    rw [List.cons_append, splitAll, h c List.mem_cons_self, hpieces]
    rfl

/-- What stands in a text without a separator stands in a piece of it. -/
theorem exists_piece {separator : Char} (h : separator ∉ line) (before rest : List Char) :
    ∃ piece, (splitAll (· == separator) (before ++ line ++ rest))[before.count separator]? = some piece ∧
      line <:+: piece := by
  induction before with
  | nil =>
    have hfree : Free (· == separator) line := fun c hc => beq_eq_false_iff_ne.2 (ne_of_mem_of_not_mem hc h)
    obtain ⟨piece, pieces, hpieces⟩ := exists_splitAll_append hfree rest
    exact ⟨line ++ piece, by rw [List.nil_append, hpieces]; rfl, (List.prefix_append line piece).isInfix⟩
  | cons c before ih =>
    obtain ⟨piece, hpiece, hinfix⟩ := ih
    rw [List.cons_append, List.cons_append, splitAll]
    by_cases hc : c = separator
    · rw [if_pos (beq_iff_eq.2 hc), hc, List.count_cons_self]
      exact ⟨piece, hpiece, hinfix⟩
    · rw [if_neg (mt beq_iff_eq.1 hc), List.count_cons_of_ne hc]
      obtain ⟨first, others, hsplit⟩ := exists_splitAll_cons (· == separator) (before ++ line ++ rest)
      rw [hsplit] at hpiece ⊢
      dsimp only
      cases hcount : before.count separator with
      | zero =>
        rw [hcount] at hpiece
        cases hpiece
        exact ⟨c :: piece, rfl, List.infix_cons hinfix⟩
      | succ count =>
        rw [hcount] at hpiece
        exact ⟨piece, hpiece, hinfix⟩

/-- A line stands on the physical line with the number of the line feeds in front of it. -/
theorem exists_physical (h : (lines text)[index]? = some line) : ∃ physical,
    (splitAll (· == '\n') text)[(front text index).count '\n']? = some physical ∧ line <:+: physical := by
  obtain ⟨rest, hrest⟩ := front_append_isPrefix h
  have hfeed : '\n' ∉ line := fun hmem =>
    absurd (unbroken_of_mem_lines (List.mem_of_getElem? h) _ hmem) (by decide)
  have hpiece := exists_piece hfeed (front text index) rest
  rwa [hrest] at hpiece

end Standing

end KotlinAudit.Text
