import KotlinAudit.Proofs.Source.Declaration
import KotlinAudit.Proofs.Text.Lines
import KotlinAudit.Rule.Performance

/-! Work in loops. Bodies of loops nest, overlap or cross, as braces are counted wherever they stand. A line is
reported for the first loop whose body holds it, so what a later loop adds lies behind the bodies of all loops
before it: the reported lines come in increasing order, each once, and none in a body is left out. -/
namespace KotlinAudit.Rule.Performance

open Source (startsWith blockEnd)
open Text (Line)

/-- A line that starts a loop and is no comment. -/
structure StartsLoop (line : Line) : Prop where
  code : startsWith "//" line = false
  loop : loopStart.occursIn line = true

/-- The body of the loop that starts at one line holds another line. -/
structure Loops (lines : List Line) (start index : Nat) : Prop where
  loop : ∃ line, lines[start]? = some line ∧ StartsLoop line
  lt : start < index
  le : index ≤ blockEnd lines start

/-- A line makes collections on the way to another one: it is no sequence, and it holds operations of two
kinds, or an operation and a list or a set made of what it gives. -/
structure Chains (line : Line) : Prop where
  eager : ¬"asSequence()".toList <:+: line
  operations : ∃ first ∈ collectionOperation.findAll line,
    (∃ second ∈ collectionOperation.findAll line, second.group 1 ≠ first.group 1) ∨
      materialization.occursIn line = true

/-- A line puts something at the end of a variable that some line declares to hold text. -/
def Appends (lines : List Line) (line : Line) : Prop :=
  ∃ declaration ∈ lines, ∃ found, stringVariable.matchStart? declaration = some found ∧
    (appending (found.group 1)).occursIn line = true

/-- What is said about the line with an index in the body of a loop. -/
inductive Tells (lines : List Line) (index : Nat) (line : Line) : Draft → Prop
  | chain (chains : Chains line) :
    Tells lines index line (collectionChain (index + 1) (String.ofList (Text.trim line)))
  | appended (single : ¬Chains line) (appends : Appends lines line) :
    Tells lines index line (stringConcatenation (index + 1) (String.ofList (Text.trim line)))

variable {lines : List Line} {start index count : Nat} {line : Line} {draft : Draft}
  {reported : List Nat} {found : List (Nat × Draft)}

/-! ### One line -/

theorem chainsCollections_iff : chainsCollections line = true ↔ Chains line := by
  have hsequence : Text.contains "asSequence()".toList line = true ↔ "asSequence()".toList <:+: line :=
    Text.contains_iff
  rw [chainsCollections]
  split
  · next h => exact iff_of_false Bool.false_ne_true fun hchains => hchains.eager (hsequence.1 h)
  next h =>
  have heager : ¬"asSequence()".toList <:+: line := fun hin => h (hsequence.2 hin)
  have hkinds : ∀ kind, kind ∈ (collectionOperation.findAll line).map (·.group 1) ↔
      ∃ operation ∈ collectionOperation.findAll line, operation.group 1 = kind := fun _ => List.mem_map
  dsimp only
  split
  · next hnone =>
    refine iff_of_false Bool.false_ne_true fun hchains => ?_
    obtain ⟨first, hfirst, -⟩ := hchains.operations
    rw [List.map_eq_nil_iff.1 hnone] at hfirst
    exact absurd hfirst List.not_mem_nil
  · next first rest hall =>
    rw [Bool.or_eq_true, List.any_eq_true]
    simp only [hall] at hkinds
    obtain ⟨operation, hoperation, hfirst⟩ := (hkinds first).1 List.mem_cons_self
    constructor
    · rintro (⟨kind, hkind, hother⟩ | hmade)
      · obtain ⟨second, hsecond, rfl⟩ := (hkinds kind).1 (List.mem_cons_of_mem first hkind)
        refine ⟨heager, operation, hoperation, .inl ⟨second, hsecond, ?_⟩⟩
        rw [hfirst]
        exact bne_iff_ne.1 hother
      · exact ⟨heager, operation, hoperation, .inr hmade⟩
    · rintro ⟨-, one, hone, ⟨other, hother, hne⟩ | hmade⟩
      -- Of two kinds at least one is not the first.
      · by_contra hsame
        rw [not_or] at hsame
        have hfirsts : ∀ kind ∈ first :: rest, kind = first := by
          refine List.forall_mem_cons.2 ⟨rfl, fun kind hkind => ?_⟩
          by_contra hkinds
          exact hsame.1 ⟨kind, hkind, bne_iff_ne.2 hkinds⟩
        refine hne ?_
        rw [hfirsts _ ((hkinds _).2 ⟨other, hother, rfl⟩), hfirsts _ ((hkinds _).2 ⟨one, hone, rfl⟩)]
      · exact .inr hmade

theorem mem_stringVariables_iff {name : List Char} : name ∈ stringVariables lines ↔
    ∃ declaration ∈ lines, ∃ found, stringVariable.matchStart? declaration = some found ∧
      found.group 1 = name := by
  simp only [stringVariables, List.mem_eraseDups, List.mem_filterMap, Option.map_eq_some_iff]

theorem any_appending_iff : (stringVariables lines).any (fun name => (appending name).occursIn line) = true ↔
    Appends lines line := by
  rw [List.any_eq_true]
  constructor
  · rintro ⟨name, hname, hoccurs⟩
    obtain ⟨declaration, hdeclaration, found, hfound, rfl⟩ := mem_stringVariables_iff.1 hname
    exact ⟨declaration, hdeclaration, found, hfound, hoccurs⟩
  · rintro ⟨declaration, hdeclaration, found, hfound, hoccurs⟩
    exact ⟨_, mem_stringVariables_iff.2 ⟨declaration, hdeclaration, found, hfound, rfl⟩, hoccurs⟩

theorem loopLineDraft?_eq_some_iff : loopLineDraft? (stringVariables lines) index line = some draft ↔
    startsWith "//" line = false ∧ Tells lines index line draft := by
  have hchain := @chainsCollections_iff line
  have happend := @any_appending_iff lines line
  rw [loopLineDraft?]
  split
  · next hcomment => exact iff_of_false nofun fun h => Bool.false_ne_true (h.1.symm.trans hcomment)
  next hcode =>
  rw [Bool.not_eq_true] at hcode
  split
  · next h =>
    rw [Option.some_inj]
    constructor
    · rintro rfl
      exact ⟨hcode, .chain (hchain.1 h)⟩
    · rintro ⟨-, hchains | ⟨hsingle, -⟩⟩
      · rfl
      · exact absurd (hchain.1 h) hsingle
  next hnone =>
  split
  · next h =>
    rw [Option.some_inj]
    constructor
    · rintro rfl
      exact ⟨hcode, .appended (fun hchains => hnone (hchain.2 hchains)) (happend.1 h)⟩
    · rintro ⟨-, hchains | ⟨-, -⟩⟩
      · exact absurd (hchain.2 ‹_›) hnone
      · rfl
  · next hkeeps =>
    refine iff_of_false nofun ?_
    rintro ⟨-, hchains | ⟨-, happends⟩⟩
    · exact hnone (hchain.2 ‹_›)
    · exact hkeeps (happend.2 happends)

theorem Tells.line_eq (h : Tells lines index line draft) : draft.line = index + 1 := by
  cases h with
  | chain => rfl
  | appended => rfl

theorem Tells.unique {other : Draft} (h : Tells lines index line draft) (hother : Tells lines index line other) :
    draft = other := by
  cases h with
  | chain hchains =>
    cases hother with
    | chain => rfl
    | appended hsingle => exact absurd hchains hsingle
  | appended hsingle =>
    cases hother with
    | chain hchains => exact absurd hchains hsingle
    | appended => rfl

/-! ### One loop -/

/-- A line that a loop up to the one at `count` gives cause to report. -/
structure Reported (lines : List Line) (count index : Nat) (draft : Draft) : Prop where
  loops : ∃ start < count, Loops lines start index
  tells : ∃ line, lines[index]? = some line ∧ startsWith "//" line = false ∧ Tells lines index line draft

theorem mem_loopDrafts_iff : (index, draft) ∈ loopDrafts lines (stringVariables lines) reported start ↔
    (start < index ∧ index ≤ blockEnd lines start) ∧ index ∉ reported ∧
      ∃ line, lines[index]? = some line ∧ startsWith "//" line = false ∧ Tells lines index line draft := by
  rw [loopDrafts, List.mem_filterMap]
  constructor
  · rintro ⟨⟨number, line⟩, hbody, hdraft⟩
    obtain ⟨hlt, hle, hline⟩ := Source.mem_blockBody_iff.1 hbody
    obtain ⟨hnew, hdraft⟩ := Option.ite_none_left_eq_some.1 hdraft
    obtain ⟨other, hother, hpair⟩ := Option.map_eq_some_iff.1 hdraft
    obtain ⟨rfl, rfl⟩ := Prod.mk.inj hpair
    refine ⟨⟨hlt, hle⟩, ?_, line, hline, loopLineDraft?_eq_some_iff.1 hother⟩
    rwa [List.contains_iff_mem] at hnew
  · rintro ⟨⟨hlt, hle⟩, hnew, line, hline, htells⟩
    refine ⟨(index, line), Source.mem_blockBody_iff.2 ⟨hlt, hle, hline⟩, ?_⟩
    dsimp only
    rw [if_neg (by rwa [List.contains_iff_mem]), loopLineDraft?_eq_some_iff.2 htells, Option.map_some]

theorem pairwise_loopDrafts (lines : List Line) (textNames : List (List Char)) (reported : List Nat)
    (start : Nat) : (loopDrafts lines textNames reported start).Pairwise
      fun earlier later => earlier.1 < later.1 := by
  have hnumbers : (lines.zipIdx.map Prod.snd).Pairwise (· < ·) := by
    rw [List.zipIdx_map_snd]
    exact List.pairwise_lt_range'
  have hbody : (Source.blockBody lines start).Pairwise fun earlier later => earlier.1 < later.1 := by
    rw [List.pairwise_map] at hnumbers
    exact List.Pairwise.filter _ (List.pairwise_map.2 hnumbers)
  refine hbody.filterMap _ fun earlier later hlt found hfound other hother => ?_
  obtain ⟨-, hfound⟩ := Option.ite_none_left_eq_some.1 hfound
  obtain ⟨-, hother⟩ := Option.ite_none_left_eq_some.1 hother
  obtain ⟨-, -, rfl⟩ := Option.map_eq_some_iff.1 hfound
  obtain ⟨-, -, rfl⟩ := Option.map_eq_some_iff.1 hother
  exact hlt

/-! ### All loops -/

/-- What has been found when the loops at the first `count` lines have been scanned. -/
structure Scanned (lines : List Line) (count : Nat) (found : List (Nat × Draft)) : Prop where
  increasing : found.Pairwise fun earlier later => earlier.1 < later.1
  mem_iff : ∀ index draft, (index, draft) ∈ found ↔ Reported lines count index draft

theorem scanned_zero (lines : List Line) : Scanned lines 0 [] where
  increasing := .nil
  mem_iff _ _ := by
    refine iff_of_false List.not_mem_nil ?_
    rintro ⟨⟨start, hstart, -⟩, -⟩
    exact absurd hstart (Nat.not_lt_zero start)

/-- A line that starts no loop gives no cause to report another one. -/
theorem Scanned.skip (h : Scanned lines count found) (hline : lines[count]? = some line)
    (hnone : ¬StartsLoop line) : Scanned lines (count + 1) found where
  increasing := h.increasing
  mem_iff index draft := by
    rw [h.mem_iff]
    constructor
    · rintro ⟨⟨start, hstart, hloops⟩, htells⟩
      exact ⟨⟨start, Nat.lt_succ_of_lt hstart, hloops⟩, htells⟩
    · rintro ⟨⟨start, hstart, hloops⟩, htells⟩
      refine ⟨⟨start, Nat.lt_of_le_of_ne (Nat.le_of_lt_succ hstart) ?_, hloops⟩, htells⟩
      rintro rfl
      obtain ⟨other, hother, hloop⟩ := hloops.loop
      obtain rfl := Option.some.inj (hline.symm.trans hother)
      exact hnone hloop

/-- A loop adds lines of its body that lie behind all lines found before: a line in front of one of them would
lie in the same earlier body. -/
theorem Scanned.add (h : Scanned lines count found) (hline : lines[count]? = some line)
    (hloop : StartsLoop line) : Scanned lines (count + 1)
      (found ++ loopDrafts lines (stringVariables lines) (found.map (·.1)) count) where
  increasing := by
    refine List.pairwise_append.2 ⟨h.increasing, pairwise_loopDrafts _ _ _ _, ?_⟩
    rintro ⟨index, draft⟩ hfound ⟨other, more⟩ hmore
    obtain ⟨⟨hlt, -⟩, hnew, htells⟩ := mem_loopDrafts_iff.1 hmore
    obtain ⟨⟨start, hstart, hloops⟩, -⟩ := (h.mem_iff _ _).1 hfound
    refine Nat.lt_of_not_le fun hle => hnew (List.mem_map.2 ⟨(other, more), (h.mem_iff _ _).2 ?_, rfl⟩)
    exact ⟨⟨start, hstart, hloops.loop, hstart.trans hlt, hle.trans hloops.le⟩, htells⟩
  mem_iff index draft := by
    rw [List.mem_append, h.mem_iff, mem_loopDrafts_iff]
    constructor
    · rintro (⟨⟨start, hstart, hloops⟩, htells⟩ | ⟨⟨hlt, hle⟩, -, htells⟩)
      · exact ⟨⟨start, Nat.lt_succ_of_lt hstart, hloops⟩, htells⟩
      · exact ⟨⟨count, Nat.lt_succ_self count, ⟨line, hline, hloop⟩, hlt, hle⟩, htells⟩
    · rintro ⟨⟨start, hstart, hloops⟩, htells⟩
      rcases Nat.lt_succ_iff_lt_or_eq.1 hstart with hearlier | rfl
      · exact .inl ⟨⟨start, hearlier, hloops⟩, htells⟩
      by_cases hreported : index ∈ found.map (·.1)
      -- What is said about a line does not depend on the loop.
      · obtain ⟨⟨number, other⟩, hother, rfl⟩ := List.mem_map.1 hreported
        have hbefore := (h.mem_iff _ _).1 hother
        obtain ⟨text, htext, -, hdraft⟩ := htells
        obtain ⟨same, hsame, -, hother⟩ := hbefore.tells
        obtain rfl := Option.some.inj (htext.symm.trans hsame)
        exact .inl (hdraft.unique hother ▸ hbefore)
      · exact .inr ⟨⟨hloops.lt, hloops.le⟩, hreported, htells⟩

/-- One line of the scan for loops. -/
def scanLine (lines : List Line) (found : List (Nat × Draft)) (item : Line × Nat) : List (Nat × Draft) :=
  if startsWith "//" item.1 || !loopStart.occursIn item.1 then found
  else found ++ loopDrafts lines (stringVariables lines) (found.map (·.1)) item.2

theorem Scanned.scanLine (h : Scanned lines count found) (hline : lines[count]? = some line) :
    Scanned lines (count + 1) (scanLine lines found (line, count)) := by
  rw [Performance.scanLine]
  split
  · next hskip =>
    refine h.skip hline fun hloop => ?_
    rw [hloop.code, hloop.loop] at hskip
    cases hskip
  · next hscan =>
    rw [Bool.not_eq_true, Bool.or_eq_false_iff, Bool.not_eq_false'] at hscan
    exact h.add hline ⟨hscan.1, hscan.2⟩

theorem scanned_take (lines : List Line) {count : Nat} (h : count ≤ lines.length) :
    Scanned lines count ((lines.zipIdx.take count).foldl (scanLine lines) []) := by
  induction count with
  | zero => exact scanned_zero lines
  | succ count ih =>
    have hcount : count < lines.zipIdx.length := by rwa [List.length_zipIdx]
    rw [List.take_add_one, List.getElem?_eq_getElem hcount, List.getElem_zipIdx, Nat.zero_add,
      Option.toList_some, List.foldl_append]
    exact (ih (Nat.le_of_succ_le h)).scanLine (List.getElem?_eq_getElem h)

/-- The findings come in increasing order of their lines. They are about the lines in the body of a loop that
are no comments, and either chain operations on collections, or else append to a variable that holds text. -/
theorem findings_of_loops (isFile : FileTest) (file : SourceFile) (text : List Char) : ∃ findings,
    analyzer.analyze isFile file text = .ok findings ∧
    findings.Pairwise (fun earlier later => earlier.line < later.line) ∧
    ∀ finding, finding ∈ findings ↔ ∃ index line draft, (Text.lines text)[index]? = some line ∧
      (∃ start, Loops (Text.lines text) start index) ∧ startsWith "//" line = false ∧
      Tells (Text.lines text) index line draft ∧
      finding = draft.finding analyzer.id analyzer.category file := by
  have hscanned := scanned_take (Text.lines text) (Nat.le_refl _)
  rw [List.take_of_length_le (Nat.le_of_eq List.length_zipIdx)] at hscanned
  set found := (Text.lines text).zipIdx.foldl (scanLine (Text.lines text)) [] with hfound
  have hreport : analyzer.analyze isFile file text = .ok ((found.map (·.2)).map fun draft =>
      draft.finding analyzer.id analyzer.category file) := rfl
  have hline : ∀ entry ∈ found, entry.2.line = entry.1 + 1 := by
    rintro ⟨index, draft⟩ hentry
    obtain ⟨line, -, -, htells⟩ := ((hscanned.mem_iff index draft).1 hentry).tells
    exact htells.line_eq
  refine ⟨_, hreport, ?_, fun finding => ?_⟩
  · rw [List.map_map, List.pairwise_map]
    refine hscanned.increasing.imp_of_mem fun {earlier later} hearlier hlater hlt => ?_
    have hnumbers : earlier.2.line < later.2.line := by
      rw [hline earlier hearlier, hline later hlater]
      exact Nat.succ_lt_succ hlt
    exact Int.ofNat_lt.2 hnumbers
  · rw [List.map_map, List.mem_map]
    constructor
    · rintro ⟨⟨index, draft⟩, hentry, rfl⟩
      obtain ⟨⟨start, -, hloops⟩, line, hat, hcode, htells⟩ := (hscanned.mem_iff index draft).1 hentry
      exact ⟨index, line, draft, hat, ⟨start, hloops⟩, hcode, htells, rfl⟩
    · rintro ⟨index, line, draft, hat, ⟨start, hloops⟩, hcode, htells, rfl⟩
      have hstart : start < (Text.lines text).length := by
        obtain ⟨_, hloop, -⟩ := hloops.loop
        exact (List.getElem?_eq_some_iff.1 hloop).1
      exact ⟨(index, draft), (hscanned.mem_iff index draft).2
        ⟨⟨start, hstart, hloops⟩, line, hat, hcode, htells⟩, rfl⟩

end KotlinAudit.Rule.Performance
