import KotlinAudit.Proofs.Rule.Placement
import KotlinAudit.Proofs.Source.Declaration

/-! Which classes are taken for view models. The header of a class is read on a number of lines up to the first
opening brace. A class without a body has none, so what the next declarations extend is read as if it stood in the
header of the class. -/
namespace KotlinAudit.Rule.DependencyInjection

open Source (declarationStart isInitial Initial)
open Text (Line)

/-- Kinds of declarations that end the header of a class without a body. -/
def kinds : List String := ["class", "interface", "object", "fun"]

/-- A declaration starts on the line. -/
def declares (line : Line) : Bool := (declarationStart kinds).matchesStart line

/-- The lines from that of a class on up to the next one on which a declaration starts. -/
def ownLines (lines : List Line) (index : Nat) : List Line :=
  match lines.drop index with
  | [] => []
  | first :: rest => first :: rest.takeWhile (!declares ·)

/-- The header of the class on a line, up to the first opening brace or to the next declaration. -/
def ownHeader (lines : List Line) (index : Nat) : List Char :=
  Text.join ['\n'] (untilBrace (ownLines lines index))

/-- A supertype of view models is named. -/
def Names (text : List Char) : Prop := viewModelSupertype.occursIn text = true

instance (text : List Char) : Decidable (Names text) :=
  inferInstanceAs (Decidable (viewModelSupertype.occursIn text = true))

/-- A class without a body that names no supertype of view models on its own lines, while what follows them, from
the next declaration on, names one within reach and in front of the first opening brace. -/
structure Borrows (lines : List Line) (index : Nat) (own : List Line) (next : Line) (below : List Line) :
    Prop where
  stands : lines.drop index = own ++ next :: below
  nonempty : own ≠ []
  near : own.length < headerReach
  starts : declares next = true
  first : ∀ line ∈ own.tail, declares line = false
  bodiless : ∀ line ∈ own, '\x7b' ∉ line
  silent : ¬Names (Text.join ['\n'] own)
  named : Names (Text.join ['\n'] (untilBrace ((next :: below).take (headerReach - own.length))))

/-- What is said of view models. -/
def wiringTitles : List String :=
  ["ViewModel Missing @HiltViewModel Annotation", "Constructor Missing @Inject Annotation"]

/-- The class on the line with an index is said to be a view model that is not annotated or whose constructor
is not. -/
def Unwired (findings : List Finding) (index : Nat) : Prop :=
  ∃ finding ∈ findings, finding.line = index + 1 ∧ finding.title ∈ wiringTitles

variable {text later : List Char} {line next : Line} {lines front rest own below : List Line} {index : Nat}

/-! ### Lines up to a brace -/

theorem untilBrace_append (h : ∀ line ∈ front, '\x7b' ∉ line) (rest : List Line) :
    untilBrace (front ++ rest) = front ++ untilBrace rest := by
  induction front with
  | nil => rfl
  | cons line front ih =>
    obtain ⟨hline, hfront⟩ := List.forall_mem_cons.1 h
    rw [List.cons_append, untilBrace, if_neg (by simpa using hline), ih hfront, List.cons_append]

theorem untilBrace_of_not_mem (h : ∀ line ∈ front, '\x7b' ∉ line) : untilBrace front = front := by
  have happend := untilBrace_append h []
  rwa [untilBrace, List.append_nil] at happend

theorem untilBrace_append_of_mem (h : ∃ line ∈ front, '\x7b' ∈ line) (rest : List Line) :
    untilBrace (front ++ rest) = untilBrace front := by
  induction front with
  | nil => exact absurd h (by simp)
  | cons line front ih =>
    rw [List.cons_append, untilBrace, untilBrace]
    split
    · rfl
    · next hline =>
      have hfront : ∃ line ∈ front, '\x7b' ∈ line := by
        obtain ⟨other, hother, hmem⟩ := h
        rcases List.mem_cons.1 hother with rfl | hother
        · exact absurd (List.contains_iff_mem.2 hmem) hline
        · exact ⟨other, hother, hmem⟩
      rw [ih hfront]

theorem untilBrace_isPrefix (front rest : List Line) : untilBrace front <+: untilBrace (front ++ rest) := by
  by_cases h : ∃ line ∈ front, '\x7b' ∈ line
  · exact ⟨[], (List.append_nil _).trans (untilBrace_append_of_mem h rest).symm⟩
  · have hnone : ∀ line ∈ front, '\x7b' ∉ line := fun line hline hmem => h ⟨line, hline, hmem⟩
    rw [untilBrace_append hnone, untilBrace_of_not_mem hnone]
    exact List.prefix_append front _

theorem untilBrace_ne_nil (line : Line) (rest : List Line) : untilBrace (line :: rest) ≠ [] := by
  rw [untilBrace]
  split <;> exact List.cons_ne_nil _ _

/-! ### Supertypes -/

section Patterns
open Pattern

/-- A supertype of view models, written without optional parts. -/
def supertype : Pattern :=
  all [only ':', blanks, either (Pattern.text "Android") empty, Pattern.text "ViewModel("]

theorem firstEnd_viewModelSupertype : viewModelSupertype.firstEnd = supertype.firstEnd :=
  firstEnd_seq_congr rfl (firstEnd_seq_congr rfl (firstEnd_seq_congr (firstEnd_optional rfl) rfl))

end Patterns

theorem names_iff : Names text ↔ ∃ middle, supertype.language middle ∧ middle <:+: text := by
  rw [Names, Pattern.occursIn_congr firstEnd_viewModelSupertype, Pattern.occursIn_iff (by decide)]

theorem Names.of_infix (h : Names text) (hin : text <:+: later) : Names later := by
  rw [Names, Pattern.occursIn_congr firstEnd_viewModelSupertype] at h ⊢
  exact Pattern.occursIn_of_infix (by decide) hin h

/-- What a supertype is called, up to the parenthesis. -/
def supertypeNames : List (List Char) := ["AndroidViewModel(".toList, "ViewModel(".toList]

theorem supertype_parts (h : supertype.language text) : ∃ gap called, text = ':' :: (gap ++ called) ∧
    (∀ c ∈ gap, Text.isBlank c = true) ∧ called ∈ supertypeNames := by
  obtain ⟨_, _, rfl, ⟨c, rfl, hc⟩, gap, _, rfl, hgap, front, back, rfl, hfront, hback⟩ :=
    Pattern.spells_of_language (by decide) h
  obtain rfl := beq_iff_eq.1 hc
  obtain rfl := Pattern.spells_text_iff.1 hback
  refine ⟨gap, front ++ "ViewModel(".toList, rfl, Pattern.spells_many_iff.1 hgap, ?_⟩
  rcases hfront with hfront | rfl
  · obtain rfl := Pattern.spells_text_iff.1 hfront
    exact List.mem_cons_self
  · exact List.mem_cons_of_mem _ List.mem_cons_self

theorem called_parts (h : text ∈ supertypeNames) :
    '\n' ∉ text ∧ ∃ c rest, text = c :: rest ∧ Text.isBlank c = false ∧ isInitial c = false := by
  rcases List.mem_pair.1 h with rfl | rfl <;> exact ⟨by decide, _, _, rfl, by decide, by decide⟩

section Cut

variable {gap called front back : List Char}

/-- A line feed in a supertype is one of the blanks behind the colon. -/
theorem exists_gap_of_cut (hgap : ∀ c ∈ gap, Text.isBlank c = true) (hcalled : called ∈ supertypeNames)
    (h : front ++ '\n' :: back = ':' :: (gap ++ called)) :
    ∃ blanks, back = blanks ++ called ∧ ∀ c ∈ blanks, Text.isBlank c = true := by
  have hfeed := (called_parts hcalled).1
  cases front with
  | nil => exact absurd (List.cons.inj h).1 (by decide)
  | cons c front =>
    rcases List.append_eq_append_iff.1 (List.cons.inj h).2 with ⟨blanks, hgapEq, hback⟩ | ⟨more, -, hcalledEq⟩
    · cases blanks with
      | nil =>
        rw [List.nil_append] at hback
        exact absurd (hback ▸ List.mem_cons_self) hfeed
      | cons d blanks =>
        obtain ⟨-, rfl⟩ := List.cons.inj hback
        exact ⟨blanks, rfl, fun e he => hgap e (hgapEq ▸ List.mem_append_right front (List.mem_cons_of_mem d he))⟩
    · exact absurd (hcalledEq ▸ List.mem_append_right more List.mem_cons_self) hfeed

/-- A declaration does not start with what may follow the colon in front of a supertype. -/
theorem not_isPrefix_of_initial (hgap : ∀ c ∈ gap, Text.isBlank c = true) (hcalled : called ∈ supertypeNames)
    (h : Initial text) : ¬gap ++ called <+: text := by
  rintro ⟨more, heq⟩
  obtain ⟨blanks, c, rest, rfl, hblanks, hc⟩ := h
  obtain ⟨-, d, others, rfl, hdblank, hd⟩ := called_parts hcalled
  have hfree : ∀ {text : List Char}, (∀ e ∈ text, Text.isBlank e = true) → Text.Free (!Text.isBlank ·) text :=
    fun h e he => congrArg (!·) (h e he)
  rw [List.append_assoc, List.cons_append] at heq
  obtain ⟨-, rfl, -⟩ := (hfree hgap).append_cons_inj (hfree hblanks) (by rw [hdblank]; rfl)
    (by rw [Source.isBlank_of_isInitial hc]; rfl) heq
  rw [hc] at hd
  cases hd

/-- Behind lines that name no supertype, what names one with them does so on its own if it starts like a
declaration. -/
theorem names_of_append (hnone : ¬Names text) (hinitial : Initial later) (h : Names (text ++ '\n' :: later)) :
    Names later := by
  obtain ⟨middle, hmiddle, hin⟩ := names_iff.1 h
  obtain ⟨gap, called, hparts, hgap, hcalled⟩ := supertype_parts hmiddle
  rcases List.infix_append_iff.1 hin with hin | hin | ⟨front, back, heq, hfront, hback⟩
  · exact absurd (names_iff.2 ⟨middle, hmiddle, hin⟩) hnone
  · rcases List.infix_cons_iff.1 hin with hhead | hin
    · rw [hparts] at hhead
      exact absurd (List.cons_prefix_cons.1 hhead).1 (by decide)
    · exact names_iff.2 ⟨middle, hmiddle, hin⟩
  · cases back with
    | nil =>
      rw [List.append_nil] at heq
      exact absurd (names_iff.2 ⟨middle, hmiddle, heq ▸ hfront.isInfix⟩) hnone
    | cons c back =>
      obtain ⟨rfl, hlater⟩ := List.cons_prefix_cons.1 hback
      obtain ⟨blanks, rfl, hblanks⟩ := exists_gap_of_cut hgap hcalled (heq.symm.trans hparts)
      exact absurd hlater (not_isPrefix_of_initial hblanks hcalled hinitial)

end Cut

/-! ### The header of a class -/

theorem initial_of_declares (h : declares line = true) : Initial line :=
  Source.initial_of_declarationStart (by decide) (by decide) (by decide) h

/-- Lines up to a brace start like the first of them. -/
theorem initial_untilBrace (h : declares next = true) (below : List Line) :
    Initial (Text.join ['\n'] (untilBrace (next :: below))) := by
  obtain ⟨gap, c, rest, rfl, hgap, hc⟩ := initial_of_declares h
  have hbrace : ∀ d ∈ gap, (d != '\x7b') = true := fun d hd =>
    bne_iff_ne.2 fun heq => absurd (heq ▸ hgap d hd) (by decide)
  have hcbrace : (c != '\x7b') = true := bne_iff_ne.2 fun heq => absurd (heq ▸ hc) (by decide)
  rw [untilBrace]
  split
  · refine ⟨gap, c, rest.takeWhile (· != '\x7b'), ?_, hgap, hc⟩
    rw [List.takeWhile_append_of_pos hbrace, List.takeWhile_cons, if_pos hcbrace]
    exact List.intercalate_singleton
  · obtain ⟨more, hmore⟩ := Text.exists_join_cons_eq '\n' (gap ++ c :: rest) (untilBrace below)
    refine ⟨gap, c, rest ++ more, ?_, hgap, hc⟩
    rw [hmore, List.append_assoc, List.cons_append]

/-- The lines of a class end where a declaration starts. -/
theorem exists_ownLines (h : lines.drop index = line :: rest) : ∃ tail later : List Line,
    rest = tail ++ later ∧ ownLines lines index = line :: tail ∧ (∀ line ∈ tail, declares line = false) ∧
      ∀ line ∈ later.head?, declares line = true := by
  refine ⟨rest.takeWhile (!declares ·), rest.dropWhile (!declares ·), List.takeWhile_append_dropWhile.symm,
    by rw [ownLines, h], fun line hline => ?_, fun line hline => ?_⟩
  · have hkept := List.mem_takeWhile_imp hline
    rwa [Bool.not_eq_true'] at hkept
  · rw [← List.find?_eq_head?_dropWhile_not] at hline
    exact List.find?_some hline

theorem ownLines_of_drop (h : lines.drop index = line :: (rest ++ next :: below))
    (hrest : ∀ line ∈ rest, declares line = false) (hnext : declares next = true) :
    ownLines lines index = line :: rest := by
  rw [ownLines, h]
  dsimp only
  rw [List.takeWhile_append_of_pos fun line hline => by rw [hrest line hline]; rfl,
    List.takeWhile_cons_of_neg (by rw [hnext]; exact Bool.false_ne_true), List.append_nil]

theorem names_ownHeader_of_front (h : front <+: ownLines lines index)
    (hnames : Names (Text.join ['\n'] (untilBrace front))) : Names (ownHeader lines index) := by
  obtain ⟨rest, hown⟩ := h
  rw [ownHeader, ← hown]
  exact hnames.of_infix (Text.join_isPrefix (untilBrace_isPrefix front rest)).isInfix

/-- What is read as the header of a class names a supertype that its own header does not name exactly if the class
borrows it from what follows. -/
theorem not_names_ownHeader_iff (hextends : extendsViewModel lines index = true) :
    ¬Names (ownHeader lines index) ↔ ∃ own next below, Borrows lines index own next below := by
  have hread : Names (Text.join ['\n'] (untilBrace ((lines.drop index).take headerReach))) := hextends
  constructor
  · intro hnot
    cases hdrop : lines.drop index with
    | nil =>
      rw [hdrop, List.take_nil] at hread
      exact absurd (names_ownHeader_of_front List.nil_prefix hread) hnot
    | cons first rest =>
      obtain ⟨tail, later, rfl, hown, htail, hlater⟩ := exists_ownLines hdrop
      rw [hdrop, ← List.cons_append, List.take_append] at hread
      -- Something else than lines of the class is read.
      have hbeyond : ¬(first :: tail).take headerReach ++ later.take (headerReach - (first :: tail).length) <+:
          first :: tail := fun hprefix => hnot (names_ownHeader_of_front (hown ▸ hprefix) hread)
      have hnear : (first :: tail).length < headerReach := by
        by_contra hfar
        refine hbeyond ?_
        rw [Nat.sub_eq_zero_of_le (Nat.le_of_not_lt hfar), List.take_zero, List.append_nil]
        exact List.take_prefix _ _
      rw [List.take_of_length_le hnear.le] at hread hbeyond
      have hbodiless : ∀ line ∈ first :: tail, '\x7b' ∉ line := by
        intro line hline hbrace
        rw [untilBrace_append_of_mem ⟨line, hline, hbrace⟩, ← hown] at hread
        exact hnot hread
      have hsilent : ¬Names (Text.join ['\n'] (first :: tail)) := by
        rwa [ownHeader, hown, untilBrace_of_not_mem hbodiless] at hnot
      cases later with
      | nil =>
        refine absurd ⟨[], ?_⟩ hbeyond
        rw [List.take_nil, List.append_nil, List.append_nil]
      | cons next below =>
        have hnext := hlater next rfl
        have htake := List.take_cons (l := below) (a := next) (Nat.sub_pos_of_lt hnear)
        rw [untilBrace_append hbodiless, Text.join_append (List.cons_ne_nil first tail)
          (by rw [htake]; exact untilBrace_ne_nil _ _)] at hread
        refine ⟨first :: tail, next, below, hdrop, List.cons_ne_nil first tail, hnear, hnext, htail, hbodiless,
          hsilent, names_of_append hsilent ?_ hread⟩
        rw [htake]
        exact initial_untilBrace hnext _
  · rintro ⟨own, next, below, h⟩
    obtain ⟨first, tail, rfl⟩ := List.exists_cons_of_ne_nil h.nonempty
    rw [ownHeader, ownLines_of_drop h.stands h.first h.starts, untilBrace_of_not_mem h.bodiless]
    exact h.silent

/-! ### What is said -/

theorem line_of_mem_viewModelDrafts {draft : Draft} {name : String} {finish : Nat}
    (h : draft ∈ viewModelDrafts lines index line name finish) : draft.line = index + 1 := by
  rw [viewModelDrafts] at h
  rcases List.mem_append.1 h with h | h
  · split at h
    · exact absurd h List.not_mem_nil
    · rw [List.mem_singleton.1 h]
      rfl
  · split at h
    · rw [List.mem_singleton.1 h]
      rfl
    · exact absurd h List.not_mem_nil

theorem of_mem_moduleDrafts {draft : Draft} {name : String} (h : draft ∈ moduleDrafts lines index line name) :
    draft.line = index + 1 ∧ draft.title ∉ wiringTitles := by
  have hmodule : "Hilt Module Missing @Module Annotation" ∉ wiringTitles := by decide
  have hinstall : "Hilt Module Missing @InstallIn Annotation" ∉ wiringTitles := by decide
  rw [moduleDrafts] at h
  rcases List.mem_append.1 h with h | h
  · split at h
    · exact absurd h List.not_mem_nil
    · obtain rfl := List.mem_singleton.1 h
      exact ⟨rfl, hmodule⟩
  · split at h
    · exact absurd h List.not_mem_nil
    · obtain rfl := List.mem_singleton.1 h
      exact ⟨rfl, hinstall⟩

/-- Only where a supertype is read in the header something is said of a view model. -/
theorem of_mem_lineDrafts {draft : Draft} (h : draft ∈ lineDrafts lines index line) :
    draft.line = index + 1 ∧ (draft.title ∈ wiringTitles → extendsViewModel lines index = true) := by
  rw [lineDrafts] at h
  split at h
  · exact absurd h List.not_mem_nil
  rcases List.mem_append.1 h with h | h
  · split at h
    · split at h
      · next hextends => exact ⟨line_of_mem_viewModelDrafts h, fun _ => hextends⟩
      · exact absurd h List.not_mem_nil
    · exact absurd h List.not_mem_nil
  · split at h
    · obtain ⟨hnumber, htitle⟩ := of_mem_moduleDrafts h
      exact ⟨hnumber, fun hwiring => absurd hwiring htitle⟩
    · exact absurd h List.not_mem_nil

theorem extends_of_unwired {file : SourceFile} (h : Unwired ((rules text).map
    (·.finding analyzer.id analyzer.category file)) index) : extendsViewModel (Text.lines text) index = true := by
  obtain ⟨finding, hfinding, hnumber, htitle⟩ := h
  obtain ⟨draft, hdraft, rfl⟩ := List.mem_map.1 hfinding
  obtain ⟨place, line, -, hdraft⟩ := exists_of_mem_flatMap_zipIdx hdraft
  obtain ⟨hline, hextends⟩ := of_mem_lineDrafts hdraft
  obtain rfl : place = index := Nat.succ.inj (hline.symm.trans (Int.ofNat.inj hnumber))
  exact hextends htitle

/-- A class that is said to be a view model and whose own header names no supertype of view models borrows it from
a declaration that follows, and no other class is blamed wrongly. -/
theorem unwired_borrowed_iff (isFile : FileTest) (file : SourceFile) (text : List Char) : ∃ findings,
    analyzer.analyze isFile file text = .ok findings ∧ ∀ index,
      Unwired findings index ∧ ¬Names (ownHeader (Text.lines text) index) ↔
        Unwired findings index ∧ ∃ own next below, Borrows (Text.lines text) index own next below :=
  ⟨_, rfl, fun _ => and_congr_right fun h => not_names_ownHeader_iff (extends_of_unwired h)⟩

def home : SourceFile := ⟨⟨1, ["HomeViewModel.kt"]⟩, "HomeViewModel.kt", 90, 0, none⟩

/-- A class without a body in front of a view model that is annotated. -/
def homeText : List Char :=
  "data class State(val id: Int)\n\n@HiltViewModel\nclass HomeViewModel : ViewModel() \x7b\n\x7d\n".toList

theorem unwired_borrowed_iff_home : ∃ findings,
    analyzer.analyze (fun _ => .ok false) home homeText = .ok findings ∧ Unwired findings 0 ∧
      ¬Names (ownHeader (Text.lines homeText) 0) := by
  obtain ⟨findings, hfindings, hborrowed⟩ := unwired_borrowed_iff (fun _ => .ok false) home homeText
  refine ⟨findings, hfindings, (hborrowed 0).2 ⟨?_, ["data class State(val id: Int)".toList, [],
    "@HiltViewModel".toList], "class HomeViewModel : ViewModel() \x7b".toList, ["\x7d".toList], ?_⟩⟩
  · obtain rfl := Except.ok.inj hfindings
    have htold : (1, "Constructor Missing @Inject Annotation") ∈
        (rules homeText).map fun draft => (draft.line, draft.title) := by decide +kernel
    obtain ⟨draft, hdraft, heq⟩ := List.mem_map.1 htold
    obtain ⟨hline, htitle⟩ := Prod.mk.inj heq
    have hwiring : draft.title ∈ wiringTitles := by
      rw [htitle]
      decide
    exact ⟨_, List.mem_map_of_mem hdraft, congrArg Int.ofNat hline, hwiring⟩
  · exact ⟨by decide, by decide, by decide, by decide +kernel, by decide +kernel, by decide,
      by decide +kernel, by decide +kernel⟩

end KotlinAudit.Rule.DependencyInjection
