import KotlinAudit.Proofs.Source.Declaration

/-! Where the block of a declaration ends. The header goes on up to a line that opens a block or holds an
expression body, if there is one within reach. The block goes on up to the line on which as many braces have
closed as have opened, or else up to the last line. No later line is looked at, and only the lines from the
first one of the declaration on count. A header without a body ends where it starts exactly if none of the
next lines within reach ends it. -/
namespace KotlinAudit.Source

open Text (Line)

/-- A line that opens a block or holds an expression body. -/
def endsHeader (line : Line) : Bool := line.contains '\x7b' || expressionBody.occursIn line

/-- No line from one index up to another, without the last one, ends a header. -/
def Plain (lines : List Line) (first stop : Nat) : Prop :=
  ∀ index line, first ≤ index → index < stop → lines[index]? = some line → endsHeader line = false

/-- The block of the declaration at `start` opens at a line within reach. -/
structure Opens (lines : List Line) (start opening : Nat) : Prop where
  le : start ≤ opening
  reach : opening ≤ start + headerReach
  header : Plain lines start opening
  brace : ∃ line, lines[opening]? = some line ∧ '\x7b' ∈ line

/-- The declaration at `start` has its expression body at a line within reach. -/
structure Bodies (lines : List Line) (start stop : Nat) : Prop where
  le : start ≤ stop
  reach : stop ≤ start + headerReach
  header : Plain lines start stop
  body : ∃ line, lines[stop]? = some line ∧ '\x7b' ∉ line ∧ expressionBody.occursIn line = true

/-- The text of the lines from one index to another. -/
def stretch (lines : List Line) (first last : Nat) : List Char :=
  ((lines.drop first).take (last + 1 - first)).flatten

/-- From one line to another at least as many braces close as open. -/
def Balanced (lines : List Line) (first last : Nat) : Prop :=
  (stretch lines first last).count '\x7b' ≤ (stretch lines first last).count '\x7d'

/-- The block that opens at a line closes at another one. -/
structure Closes (lines : List Line) (opening stop : Nat) : Prop where
  le : opening ≤ stop
  lt : stop < lines.length
  balanced : Balanced lines opening stop
  first : ∀ index, opening ≤ index → index < stop → ¬Balanced lines opening index

/-- The block of the declaration at `start` ends at a line. -/
structure Ends (lines : List Line) (start stop : Nat) : Prop where
  le : start ≤ stop
  lt : stop < lines.length
  block : ∀ opening, Opens lines start opening → Closes lines opening stop ∨
    (∀ index, ¬Closes lines opening index) ∧ stop + 1 = lines.length
  header : (∀ opening, ¬Opens lines start opening) → Bodies lines start stop ∨
    (∀ index, ¬Bodies lines start index) ∧ stop = start

/-- The scan for the end of the block stops at a line: at the one that closes the block, at the expression
body, or where the header has gone on for as long as it may. -/
inductive Stops (lines : List Line) (start : Nat) : Nat → Prop
  | closed {opening stop : Nat} (opens : Opens lines start opening) (closes : Closes lines opening stop) :
    Stops lines start stop
  | body {stop : Nat} (bodies : Bodies lines start stop) : Stops lines start stop
  | reach (plain : Plain lines start (start + headerReach + 1)) (lt : start + headerReach < lines.length) :
    Stops lines start (start + headerReach)

variable {lines others : List Line} {start opening stop index : Nat}

theorem endsHeader_eq_false_iff {line : Line} :
    endsHeader line = false ↔ '\x7b' ∉ line ∧ expressionBody.occursIn line = false := by
  rw [endsHeader, Bool.or_eq_false_iff, ← Bool.not_eq_true, List.contains_iff_mem]

/-! ### The line that closes a block -/

/-- By how many the opening braces of some lines outnumber the closing ones. -/
def rise (lines : List Line) : Int := lines.flatten.count '\x7b' - lines.flatten.count '\x7d'

theorem rise_cons (line : Line) (rest : List Line) :
    rise (line :: rest) = line.count '\x7b' - line.count '\x7d' + rise rest := by
  simp only [rise, List.flatten_cons, List.count_append]
  omega

theorem balanced_add_iff (passed : Nat) : Balanced lines opening (opening + passed) ↔
    rise ((lines.drop opening).take (passed + 1)) ≤ 0 := by
  rw [Balanced, stretch, rise, show opening + passed + 1 - opening = passed + 1 by omega]
  omega

/-- The scan of an open block stops where the depth is brought back to zero for the first time. -/
theorem closingLine?_eq_some_iff {depth : Int} : closingLine? depth index lines = some stop ↔
    ∃ passed, stop = index + passed ∧ passed < lines.length ∧
      depth + rise (lines.take (passed + 1)) ≤ 0 ∧
      ∀ other < passed, 0 < depth + rise (lines.take (other + 1)) := by
  induction lines generalizing depth index with
  | nil =>
    refine iff_of_false nofun ?_
    rintro ⟨passed, -, hlt, -⟩
    exact absurd hlt (Nat.not_lt_zero passed)
  | cons line rest ih =>
    have hrise : ∀ passed, depth + rise ((line :: rest).take (passed + 1)) =
        depth + line.count '\x7b' - line.count '\x7d' + rise (rest.take passed) := by
      intro passed
      rw [List.take_succ_cons, rise_cons]
      omega
    have hfirst := hrise 0
    rw [List.take_zero, show rise [] = 0 from rfl] at hfirst
    rw [closingLine?]
    split
    · next hclosed =>
      constructor
      · rintro ⟨⟩
        exact ⟨0, rfl, Nat.zero_lt_succ _, by omega, fun _ h => absurd h (Nat.not_lt_zero _)⟩
      · rintro ⟨passed, rfl, -, -, hothers⟩
        cases passed with
        | zero => rfl
        | succ passed =>
          have := hothers 0 (Nat.zero_lt_succ passed)
          omega
    · next hopen =>
      rw [ih]
      constructor
      · rintro ⟨passed, rfl, hlt, hclosed, hothers⟩
        refine ⟨passed + 1, by omega, Nat.succ_lt_succ hlt, by rwa [hrise], fun other hother => ?_⟩
        cases other with
        | zero => omega
        | succ other =>
          rw [hrise]
          exact hothers other (Nat.lt_of_succ_lt_succ hother)
      · rintro ⟨passed, rfl, hlt, hclosed, hothers⟩
        cases passed with
        | zero => omega
        | succ passed =>
          refine ⟨passed, by omega, Nat.lt_of_succ_lt_succ hlt, by rwa [hrise] at hclosed,
            fun other hother => ?_⟩
          have := hothers (other + 1) (Nat.succ_lt_succ hother)
          rwa [hrise] at this

theorem closingLine?_drop_eq_some_iff :
    closingLine? 0 opening (lines.drop opening) = some stop ↔ Closes lines opening stop := by
  rw [closingLine?_eq_some_iff]
  simp only [Int.zero_add, List.length_drop, ← balanced_add_iff, ← Int.not_le]
  constructor
  · rintro ⟨passed, rfl, hlt, hclosed, hothers⟩
    refine ⟨Nat.le_add_right _ _, by omega, hclosed, fun index hle hindex => ?_⟩
    obtain ⟨other, rfl⟩ := Nat.exists_eq_add_of_le hle
    exact hothers other (by omega)
  · rintro ⟨hle, hlt, hclosed, hothers⟩
    obtain ⟨passed, rfl⟩ := Nat.exists_eq_add_of_le hle
    exact ⟨passed, rfl, by omega, hclosed, fun other hother =>
      hothers (opening + other) (Nat.le_add_right _ _) (by omega)⟩

theorem closingLine?_shift (count : Nat) {depth : Int} : closingLine? depth (count + index) lines =
    (closingLine? depth index lines).map (count + ·) := by
  induction lines generalizing depth index with
  | nil => rfl
  | cons line rest ih =>
    rw [closingLine?, closingLine?]
    split
    · rfl
    · rw [Nat.add_assoc, ih]

/-! ### The line that ends the header -/

/-- As long as no line ends the header, the scan goes on within its reach. -/
theorem blockEndFrom_of_plain (count : Nat) (h : Plain lines start stop) (hstart : start ≤ index)
    (hindex : index ≤ stop) (hstop : stop ≤ lines.length) (hreach : stop ≤ start + headerReach) :
    blockEndFrom count start index (lines.drop index) =
      blockEndFrom count start stop (lines.drop stop) := by
  induction hgap : stop - index generalizing index with
  | zero => rw [show index = stop by omega]
  | succ gap ih =>
    have hlt : index < lines.length := by omega
    obtain ⟨hbrace, hbody⟩ := endsHeader_eq_false_iff.1
      (h index lines[index] hstart (by omega) (List.getElem?_eq_getElem hlt))
    have hlater : blockEndFrom count start (index + 1) (lines.drop (index + 1)) =
        blockEndFrom count start stop (lines.drop stop) := ih (by omega) (by omega) (by omega)
    rw [← hlater, List.drop_eq_getElem_cons hlt, blockEndFrom, if_pos (List.count_eq_zero.2 hbrace), hbody,
      if_neg Bool.false_ne_true, if_neg (by omega)]

theorem blockEnd_of_plain (h : Plain lines start stop) (hstart : start ≤ stop)
    (hstop : stop ≤ lines.length) (hreach : stop ≤ start + headerReach) :
    blockEnd lines start = blockEndFrom lines.length start stop (lines.drop stop) :=
  blockEndFrom_of_plain lines.length h (Nat.le_refl start) hstart hstop hreach

theorem blockEnd_of_opens (h : Opens lines start opening) : blockEnd lines start =
    (closingLine? 0 opening (lines.drop opening)).getD (lines.length - 1) := by
  obtain ⟨hle, hreach, hheader, line, hline, hbrace⟩ := h
  obtain ⟨hlt, rfl⟩ := List.getElem?_eq_some_iff.1 hline
  rw [blockEnd_of_plain hheader hle (Nat.le_of_lt hlt) hreach, List.drop_eq_getElem_cons hlt,
    blockEndFrom, if_neg (Nat.ne_of_gt (List.count_pos_iff.2 hbrace))]

theorem blockEnd_of_bodies (h : Bodies lines start stop) : blockEnd lines start = stop := by
  obtain ⟨hle, hreach, hheader, line, hline, hbrace, hbody⟩ := h
  obtain ⟨hlt, rfl⟩ := List.getElem?_eq_some_iff.1 hline
  rw [blockEnd_of_plain hheader hle (Nat.le_of_lt hlt) hreach, List.drop_eq_getElem_cons hlt,
    blockEndFrom, if_pos (List.count_eq_zero.2 hbrace), if_pos hbody]

/-- A declaration without a body ends where it starts. -/
theorem blockEnd_of_bodiless (h : Plain lines start (start + headerReach + 1)) :
    blockEnd lines start = start := by
  have hplain : ∀ stop, stop ≤ start + headerReach → Plain lines start stop :=
    fun stop hstop index line hfirst hindex => h index line hfirst (by omega)
  rcases Nat.lt_or_ge (start + headerReach) lines.length with hlt | hle
  · obtain ⟨hbrace, hbody⟩ := endsHeader_eq_false_iff.1 (h (start + headerReach) _
      (Nat.le_add_right _ _) (Nat.lt_succ_self _) (List.getElem?_eq_getElem hlt))
    rw [blockEnd_of_plain (hplain _ (Nat.le_refl _)) (Nat.le_add_right _ _) (Nat.le_of_lt hlt)
      (Nat.le_refl _), List.drop_eq_getElem_cons hlt, blockEndFrom,
      if_pos (List.count_eq_zero.2 hbrace), hbody, if_neg Bool.false_ne_true, if_pos (Nat.le_refl _)]
  · rcases Nat.lt_or_ge start lines.length with hstart | hstart
    · rw [blockEnd_of_plain (hplain _ hle) (Nat.le_of_lt hstart) (Nat.le_refl _) hle, List.drop_length]
      rfl
    · rw [blockEnd, List.drop_eq_nil_of_le hstart]
      rfl

/-- Of the lines from one index up to another none ends a header, or there is a first one that does. -/
theorem plain_or_exists_first (lines : List Line) (first stop : Nat) : Plain lines first stop ∨
    ∃ index line, first ≤ index ∧ index < stop ∧ Plain lines first index ∧
      lines[index]? = some line ∧ endsHeader line = true := by
  induction stop with
  | zero => exact .inl fun index _ _ h => absurd h (Nat.not_lt_zero index)
  | succ stop ih =>
    rcases ih with hplain | ⟨index, line, hfirst, hindex, hline⟩
    · by_cases hends : ∃ line, first ≤ stop ∧ lines[stop]? = some line ∧ endsHeader line = true
      · obtain ⟨line, hfirst, hline⟩ := hends
        exact .inr ⟨stop, line, hfirst, Nat.lt_succ_self stop, hplain, hline⟩
      · refine .inl fun index line hfirst hindex hline => ?_
        rcases Nat.lt_succ_iff_lt_or_eq.1 hindex with hlt | rfl
        · exact hplain index line hfirst hlt hline
        · exact Bool.eq_false_iff.2 fun h => hends ⟨line, hfirst, hline, h⟩
    · exact .inr ⟨index, line, hfirst, Nat.lt_succ_of_lt hindex, hline⟩

theorem opens_or_bodies_or_plain (lines : List Line) (start : Nat) :
    (∃ opening, Opens lines start opening) ∨ (∃ stop, Bodies lines start stop) ∨
      Plain lines start (start + headerReach + 1) := by
  rcases plain_or_exists_first lines start (start + headerReach + 1) with
    hplain | ⟨index, line, hfirst, hindex, hplain, hline, hends⟩
  · exact .inr (.inr hplain)
  · have hreach := Nat.le_of_lt_succ hindex
    by_cases hbrace : '\x7b' ∈ line
    · exact .inl ⟨index, hfirst, hreach, hplain, line, hline, hbrace⟩
    · rw [endsHeader, Bool.or_eq_true, List.contains_iff_mem] at hends
      exact .inr (.inl ⟨index, hfirst, hreach, hplain, line, hline, hbrace, hends.resolve_left hbrace⟩)

/-- A header does not go on over a line that ends one. -/
theorem Plain.le_of_endsHeader (h : Plain lines start stop) (hstart : start ≤ index) {line : Line}
    (hline : lines[index]? = some line) (hends : endsHeader line = true) : stop ≤ index := by
  by_contra hlt
  exact Bool.false_ne_true ((h index line hstart (Nat.lt_of_not_le hlt) hline).symm.trans hends)

theorem Opens.le_of_plain (h : Opens lines start opening) (hplain : Plain lines start stop) :
    stop ≤ opening := by
  obtain ⟨hle, -, -, line, hline, hbrace⟩ := h
  exact hplain.le_of_endsHeader hle hline
    (by rw [endsHeader, List.contains_iff_mem.2 hbrace, Bool.true_or])

theorem Bodies.le_of_plain (h : Bodies lines start index) (hplain : Plain lines start stop) :
    stop ≤ index := by
  obtain ⟨hle, -, -, line, hline, -, hbody⟩ := h
  exact hplain.le_of_endsHeader hle hline (by rw [endsHeader, hbody, Bool.or_true])

theorem Opens.not_plain (h : Opens lines start opening) :
    ¬Plain lines start (start + headerReach + 1) := fun hplain =>
  Nat.not_succ_le_self _ (Nat.le_trans (h.le_of_plain hplain) h.reach)

theorem Bodies.not_plain (h : Bodies lines start stop) :
    ¬Plain lines start (start + headerReach + 1) := fun hplain =>
  Nat.not_succ_le_self _ (Nat.le_trans (h.le_of_plain hplain) h.reach)

theorem Opens.not_bodies (h : Opens lines start opening) : ¬Bodies lines start stop := by
  intro hbodies
  obtain rfl := Nat.le_antisymm (hbodies.le_of_plain h.header) (h.le_of_plain hbodies.header)
  obtain ⟨line, hline, hbrace⟩ := h.brace
  obtain ⟨other, hother, hnone, -⟩ := hbodies.body
  obtain rfl := Option.some.inj (hline.symm.trans hother)
  exact hnone hbrace

/-- The scan stops at some line, or there are no more lines when the block has not been closed yet or while
the header goes on. -/
theorem exists_stops_or_exhausted (lines : List Line) (start : Nat) : (∃ stop, Stops lines start stop) ∨
    (∃ opening, Opens lines start opening ∧ ∀ index, ¬Closes lines opening index) ∨
    Plain lines start lines.length ∧ lines.length ≤ start + headerReach := by
  rcases opens_or_bodies_or_plain lines start with ⟨opening, hopens⟩ | ⟨stop, hbodies⟩ | hplain
  · by_cases hcloses : ∃ stop, Closes lines opening stop
    · obtain ⟨stop, hcloses⟩ := hcloses
      exact .inl ⟨stop, .closed hopens hcloses⟩
    · exact .inr (.inl ⟨opening, hopens, not_exists.1 hcloses⟩)
  · exact .inl ⟨stop, .body hbodies⟩
  · rcases Nat.lt_or_ge (start + headerReach) lines.length with hlt | hle
    · exact .inl ⟨_, .reach hplain hlt⟩
    · exact .inr (.inr ⟨fun index line hfirst hindex => hplain index line hfirst (by omega), hle⟩)

/-! ### The end of the block -/

theorem blockEnd_eq_iff (h : start < lines.length) :
    blockEnd lines start = stop ↔ Ends lines start stop := by
  constructor
  · rintro rfl
    obtain ⟨hle, hlt⟩ := blockEnd_lt h
    refine ⟨hle, hlt, fun opening hopens => ?_, fun hopens => ?_⟩
    · rw [blockEnd_of_opens hopens]
      cases hclosing : closingLine? 0 opening (lines.drop opening) with
      | some stop => exact .inl (closingLine?_drop_eq_some_iff.1 hclosing)
      | none =>
        refine .inr ⟨fun index hcloses => ?_, by rw [Option.getD_none]; omega⟩
        rw [closingLine?_drop_eq_some_iff.2 hcloses] at hclosing
        cases hclosing
    · rcases opens_or_bodies_or_plain lines start with ⟨opening, hopen⟩ | ⟨stop, hbodies⟩ | hplain
      · exact absurd hopen (hopens opening)
      · rw [blockEnd_of_bodies hbodies]
        exact .inl hbodies
      · exact .inr ⟨fun index hbodies => hbodies.not_plain hplain, blockEnd_of_bodiless hplain⟩
  · rintro ⟨-, hlt, hblock, hheader⟩
    rcases opens_or_bodies_or_plain lines start with ⟨opening, hopens⟩ | ⟨other, hbodies⟩ | hplain
    · rw [blockEnd_of_opens hopens]
      rcases hblock opening hopens with hcloses | ⟨hnone, hlast⟩
      · rw [closingLine?_drop_eq_some_iff.2 hcloses, Option.getD_some]
      · have hclosing : closingLine? 0 opening (lines.drop opening) = none :=
          Option.eq_none_iff_forall_ne_some.2 fun index hindex =>
            hnone index (closingLine?_drop_eq_some_iff.1 hindex)
        rw [hclosing, Option.getD_none]
        omega
    · rw [blockEnd_of_bodies hbodies]
      rcases hheader fun opening hopens => hopens.not_bodies hbodies with hbody | ⟨hnone, -⟩
      · exact Nat.le_antisymm (hbody.le_of_plain hbodies.header) (hbodies.le_of_plain hbody.header)
      · exact absurd hbodies (hnone other)
    · rw [blockEnd_of_bodiless hplain]
      rcases hheader fun opening hopens => hopens.not_plain hplain with hbody | ⟨-, hstart⟩
      · exact absurd hplain hbody.not_plain
      · exact hstart.symm

/-! ### Headers without a body -/

section Bodiless

variable {line : Line}

/-- An expression body has an equals sign. -/
theorem expressionBody_requires : expressionBody.Requires '=' := by
  exact .seq_right (.seq_right (.seq_right (.seq_right (Pattern.requires_only '='))))

theorem endsHeader_of_bodiless (hbrace : '\x7b' ∉ line) (hequals : '=' ∉ line) :
    endsHeader line = false :=
  endsHeader_eq_false_iff.2 ⟨hbrace, Bool.eq_false_iff.2 fun h =>
    hequals (expressionBody_requires.mem_of_occursIn h)⟩

/-- A block that does not open on its first line ends behind it. -/
theorem blockEnd_eq_self_iff (hline : lines[start]? = some line) (hheader : endsHeader line = false) :
    blockEnd lines start = start ↔ Plain lines start (start + headerReach + 1) := by
  obtain ⟨hlt, -⟩ := List.getElem?_eq_some_iff.1 hline
  have hplain : Plain lines start (start + 1) := by
    intro index other hfirst hindex hother
    obtain rfl : start = index := by omega
    rwa [← Option.some.inj (hline.symm.trans hother)]
  refine ⟨fun h => ?_, blockEnd_of_bodiless⟩
  obtain ⟨-, -, hblock, -⟩ := (blockEnd_eq_iff hlt).1 h
  rcases opens_or_bodies_or_plain lines start with ⟨opening, hopens⟩ | ⟨stop, hbodies⟩ | hplain'
  · have hafter := hopens.le_of_plain hplain
    have hopening : opening < lines.length := by
      obtain ⟨other, hother, -⟩ := hopens.brace
      exact (List.getElem?_eq_some_iff.1 hother).1
    rcases hblock opening hopens with hcloses | ⟨-, hlast⟩
    · have := hcloses.le
      omega
    · omega
  · have hafter := hbodies.le_of_plain hplain
    rw [blockEnd_of_bodies hbodies] at h
    omega
  · exact hplain'

theorem plain_iff_forall_mem (hline : lines[start]? = some line) (hheader : endsHeader line = false) :
    Plain lines start (start + headerReach + 1) ↔
      ∀ next ∈ (lines.drop (start + 1)).take headerReach, endsHeader next = false := by
  constructor
  · intro hplain next hnext
    obtain ⟨passed, hpassed⟩ := List.mem_iff_getElem?.1 hnext
    rw [List.getElem?_take] at hpassed
    split at hpassed
    · next hlt =>
      rw [List.getElem?_drop] at hpassed
      exact hplain _ next (by omega) (by omega) hpassed
    · cases hpassed
  · intro hnext index other hfirst hindex hother
    rcases Nat.eq_or_lt_of_le hfirst with rfl | hlt
    · rwa [← Option.some.inj (hline.symm.trans hother)]
    · obtain ⟨passed, rfl⟩ := Nat.exists_eq_add_of_le hlt
      refine hnext other (List.mem_iff_getElem?.2 ⟨passed, ?_⟩)
      rw [List.getElem?_take_of_lt (by omega), List.getElem?_drop]
      exact hother

end Bodiless

/-! ### What the end depends on -/

section Congr

variable (h : others.take (stop + 1) = lines.take (stop + 1))
include h

theorem getElem?_of_take_eq (hindex : index ≤ stop) : others[index]? = lines[index]? := by
  rw [← List.getElem?_take_of_lt (Nat.lt_succ_of_le hindex), h,
    List.getElem?_take_of_lt (Nat.lt_succ_of_le hindex)]

theorem Plain.of_take_eq {last : Nat} (hlast : last ≤ stop + 1) (hplain : Plain lines start last) :
    Plain others start last := fun index line hfirst hindex hline =>
  hplain index line hfirst hindex (by rwa [← getElem?_of_take_eq h (by omega)])

theorem Opens.of_take_eq (hstop : opening ≤ stop) (hopens : Opens lines start opening) :
    Opens others start opening := by
  obtain ⟨hle, hreach, hheader, hbrace⟩ := hopens
  exact ⟨hle, hreach, hheader.of_take_eq h (by omega), by rwa [getElem?_of_take_eq h hstop]⟩

theorem balanced_iff_of_take_eq (hindex : index ≤ stop) :
    Balanced others opening index ↔ Balanced lines opening index := by
  have htake : others.take (index + 1) = lines.take (index + 1) := by
    have hmin : min (index + 1) (stop + 1) = index + 1 := by omega
    rw [← hmin, ← List.take_take, h, List.take_take]
  rw [Balanced, Balanced, stretch, stretch, ← List.drop_take, ← List.drop_take, htake]

theorem Closes.of_take_eq (hcloses : Closes lines opening stop) : Closes others opening stop := by
  obtain ⟨hle, hlt, hbalanced, hfirst⟩ := hcloses
  have hline := getElem?_of_take_eq h (Nat.le_refl stop)
  rw [List.getElem?_eq_getElem hlt] at hline
  refine ⟨hle, (List.getElem?_eq_some_iff.1 hline).1,
    (balanced_iff_of_take_eq h (Nat.le_refl stop)).2 hbalanced, fun index hopening hindex => ?_⟩
  rw [balanced_iff_of_take_eq h (Nat.le_of_lt hindex)]
  exact hfirst index hopening hindex

theorem blockEnd_of_take_eq (hstops : Stops lines start stop) :
    blockEnd others start = blockEnd lines start := by
  cases hstops with
  | @closed opening _ hopens hcloses =>
    rw [blockEnd_of_opens hopens, blockEnd_of_opens (hopens.of_take_eq h hcloses.le),
      closingLine?_drop_eq_some_iff.2 hcloses, closingLine?_drop_eq_some_iff.2 (hcloses.of_take_eq h),
      Option.getD_some, Option.getD_some]
  | body hbodies =>
    have hothers : Bodies others start stop := by
      obtain ⟨hle, hreach, hheader, hbody⟩ := hbodies
      exact ⟨hle, hreach, hheader.of_take_eq h (Nat.le_succ stop),
        by rwa [getElem?_of_take_eq h (Nat.le_refl stop)]⟩
    rw [blockEnd_of_bodies hbodies, blockEnd_of_bodies hothers]
  | reach hplain hlt =>
    rw [blockEnd_of_bodiless hplain, blockEnd_of_bodiless (hplain.of_take_eq h (Nat.le_refl _))]

end Congr

theorem Stops.lt (h : Stops lines start stop) : stop < lines.length := by
  cases h with
  | closed hopens hcloses => exact hcloses.lt
  | body hbodies =>
    obtain ⟨line, hline, -⟩ := hbodies.body
    exact (List.getElem?_eq_some_iff.1 hline).1
  | reach hplain hlt => exact hlt

theorem blockEndFrom_shift {count : Nat} (hcount : 0 < count) (added : Nat) :
    blockEndFrom (added + count) (added + start) (added + index) lines =
      added + blockEndFrom count start index lines := by
  induction lines generalizing index with
  | nil => rfl
  | cons line rest ih =>
    have hreach : added + start + headerReach ≤ added + index ↔ start + headerReach ≤ index := by omega
    have hlast : added + count - 1 = added + (count - 1) := by omega
    rw [blockEndFrom, blockEndFrom]
    split
    · simp only [hreach]
      split
      · rfl
      split
      · rfl
      · rw [Nat.add_assoc, ih]
    · rw [closingLine?_shift, hlast, Option.getD_map]

theorem blockEnd_append (h : start < lines.length) (front : List Line) :
    blockEnd (front ++ lines) (front.length + start) = front.length + blockEnd lines start := by
  rw [blockEnd, List.length_append, List.drop_append, List.drop_eq_nil_of_le (Nat.le_add_right _ _),
    List.nil_append, Nat.add_sub_cancel_left]
  exact blockEndFrom_shift (Nat.zero_lt_of_lt h) front.length

/-- The end of the block lies at the line that closes it, at the expression body or at the start of the
declaration. It does not depend on the lines after the one at which the scan stops, and lines in front of
all others only move it. -/
theorem ends_blockEnd (h : start < lines.length) : Ends lines start (blockEnd lines start) ∧
    (∀ stop, Stops lines start stop → ∀ rest,
      blockEnd (lines.take (stop + 1) ++ rest) start = blockEnd lines start) ∧
    ∀ front, blockEnd (front ++ lines) (front.length + start) = front.length + blockEnd lines start := by
  refine ⟨(blockEnd_eq_iff h).1 rfl, fun stop hstops rest => ?_, blockEnd_append h⟩
  have hlength : (lines.take (stop + 1)).length = stop + 1 := List.length_take_of_le hstops.lt
  refine blockEnd_of_take_eq ?_ hstops
  rw [List.take_append_of_le_length (Nat.le_of_eq hlength.symm), List.take_take, Nat.min_self]

/-- A block within a block, after a header of two lines. -/
theorem ends_blockEnd_nested :
    Ends ["fun a(".toList, ") \x7b".toList, "\x7b \x7d".toList, "\x7d".toList, "\x7d".toList] 0 3 := by
  have hstop : blockEnd ["fun a(".toList, ") \x7b".toList, "\x7b \x7d".toList, "\x7d".toList, "\x7d".toList] 0
      = 3 := by decide
  rw [← hstop]
  exact (ends_blockEnd (by decide)).1

end KotlinAudit.Source
