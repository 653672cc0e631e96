import KotlinAudit.Proofs.Source.Noise
import KotlinAudit.Proofs.Text.Lines
import Mathlib.Data.List.Induction

/-! The parameters of a function. Between its parentheses a function has items with commas between them, and
maybe one more comma at the end. One depth is kept for brackets of all kinds, so the way through an item comes
back to the depth of the list, whatever kinds its brackets have, and with it passes no comma of the list. Line
breaks in white space and comments at the ends of lines change nothing that is visible: however a header is
laid out, the count is the number of its items. -/
namespace KotlinAudit.Source

open Text (Line)

/-- A text with balanced brackets, all kinds counted as one, and with commas only inside of brackets. No
beginning of it closes more brackets than it opens. -/
structure Item (text : List Char) : Prop where
  level : ∀ front, front <+: text → front.countP isClosing ≤ front.countP isOpening
  comma : ∀ front, front ++ [','] <+: text → front.countP isClosing < front.countP isOpening
  closed : text.countP isOpening = text.countP isClosing

instance (text : List Char) : Decidable (Item text) :=
  decidable_of_iff ((∀ front ∈ text.inits, front.countP isClosing ≤ front.countP isOpening) ∧
    (∀ front ∈ text.inits, front ++ [','] <+: text → front.countP isClosing < front.countP isOpening) ∧
    text.countP isOpening = text.countP isClosing)
  ⟨fun ⟨hlevel, hcomma, hclosed⟩ => ⟨fun front hfront => hlevel front ((List.mem_inits _ _).2 hfront),
    fun front hfront => hcomma front
      ((List.mem_inits _ _).2 ((List.prefix_append front _).trans hfront)) hfront, hclosed⟩,
  fun h => ⟨fun front hfront => h.level front ((List.mem_inits _ _).1 hfront), fun front _ => h.comma front,
    h.closed⟩⟩

/-- A parameter as it may be written: apart from arrows it is an item of a list, and not blank. -/
structure IsParameter (text : List Char) : Prop where
  noiseless : Noiseless text
  item : Item (arrowless text)
  filled : ∃ c ∈ arrowless text, Text.isBlank c = false

instance (text : List Char) : Decidable (IsParameter text) :=
  decidable_of_iff (Noiseless text ∧ Item (arrowless text) ∧ (arrowless text).any (!Text.isBlank ·) = true)
    ⟨fun ⟨hnoiseless, hitem, hfilled⟩ => ⟨hnoiseless, hitem, by simpa using hfilled⟩,
      fun h => ⟨h.noiseless, h.item, by simpa using h.filled⟩⟩

/-- The text between the parentheses of a list of parameters. A comma may stand behind the last one. -/
inductive Listing : List Line → List Char → Prop
  | empty {gap : List Char} (blank : ∀ c ∈ gap, Text.isBlank c = true) : Listing [] gap
  | last {parameter : Line} (written : IsParameter parameter) : Listing [parameter] parameter
  | cons {parameter : Line} {others : List Line} {text : List Char} (written : IsParameter parameter)
    (later : Listing others text) : Listing (parameter :: others) (parameter ++ ',' :: text)

/-- What may be added at the end of a line: nothing or a comment. -/
inductive Remark : List Char → Prop
  | none : Remark []
  | comment {text : List Char} (line : '\n' ∉ text) : Remark (' ' :: '/' :: '/' :: text)

/-- A text is broken into lines at white space, with `ending` behind it on the last line. -/
inductive Laid (ending : List Char) : List Char → List Line → Prop
  | last {text : List Char} : Laid ending text [text ++ ending]
  | cut {front gap rest added : List Char} {lines : List Line} (ne : gap ≠ [])
    (blank : ∀ c ∈ gap, Text.isBlank c = true) (remark : Remark added) (later : Laid ending rest lines) :
    Laid ending (front ++ (gap ++ rest)) ((front ++ added) :: lines)

variable {c : Char} {text rest front gap ending added intro list : List Char} {lines parameters : List Line}

/-! ### White space and texts without noise -/

theorem not_mem_of_forall {kind : Char → Bool} (h : ∀ c ∈ text, kind c = true) (hc : kind c = false) :
    c ∉ text := fun hmem => Bool.false_ne_true (hc.symm.trans (h c hmem))

theorem arrowless_gap (h : ∀ c ∈ gap, Text.isBlank c = true) (rest : List Char) :
    arrowless (gap ++ rest) = gap ++ arrowless rest :=
  Text.replaceAll_append_of_not_mem _ _ _ (not_mem_of_forall h (by decide))

theorem inked_gap (h : ∀ c ∈ gap, Text.isBlank c = true) (rest : List Char) :
    inked (gap ++ rest) = inked rest := by
  have hgap : gap.filter (!Text.isBlank ·) = [] := List.filter_eq_nil_iff.2 fun c hc => by
    rw [h c hc]
    exact Bool.false_ne_true
  rw [inked, arrowless_gap h, List.filter_append, hgap, List.nil_append, inked]

theorem inked_of_blank (h : ∀ c ∈ gap, Text.isBlank c = true) : inked gap = [] := by
  rw [← List.append_nil gap, inked_gap h, inked_nil]

theorem Noiseless.of_not_mem (hquote : '"' ∉ text) (hslash : '/' ∉ text) : Noiseless text where
  quote := hquote
  slashes hin := hslash (hin.subset List.mem_cons_self)

theorem Noiseless.nil : Noiseless [] := .of_not_mem List.not_mem_nil List.not_mem_nil

theorem Noiseless.of_infix (h : Noiseless text) (hin : front <:+: text) : Noiseless front where
  quote hmem := h.quote (hin.subset hmem)
  slashes hslashes := h.slashes (hslashes.trans hin)

theorem Noiseless.append_cons (h : Noiseless front) (hrest : Noiseless rest) (hquote : c ≠ '"')
    (hslash : c ≠ '/') : Noiseless (front ++ c :: rest) where
  quote hmem := by
    rcases List.mem_append.1 hmem with hmem | hmem
    · exact h.quote hmem
    · exact hrest.quote ((List.mem_cons.1 hmem).resolve_left hquote.symm)
  slashes hin := by
    rcases (Text.infix_append_cons_iff (by simpa using hslash)).1 hin with hin | hin
    · exact h.slashes hin
    · exact hrest.slashes hin

theorem Listing.noiseless (h : Listing parameters list) : Noiseless list := by
  induction h with
  | empty hblank =>
    exact .of_not_mem (not_mem_of_forall hblank (by decide)) (not_mem_of_forall hblank (by decide))
  | last hwritten => exact hwritten.noiseless
  | cons hwritten _ ih => exact hwritten.noiseless.append_cons ih (by decide) (by decide)

/-! ### The way through a list -/

namespace ParameterScan

/-- Inside of a list a character that does not end it and does not separate its items moves the depth. -/
theorem next_inside {depth : Nat} (hclosing : isClosing c = true → 0 < depth) (hcomma : c = ',' → 0 < depth)
    (commas : Nat) (filled : Bool) : next ⟨depth + 1, commas, filled⟩ c =
      .ok ⟨depth + [c].countP isOpening - [c].countP isClosing + 1, commas, filled || !Text.isBlank c⟩ := by
  rw [next_eq, List.countP_singleton, List.countP_singleton]
  by_cases hopens : isOpening c = true
  · rw [if_pos hopens, if_pos hopens, isClosing_of_isOpening hopens, isBlank_of_isOpening hopens]
    simp
  · rw [if_neg hopens, if_neg hopens]
    by_cases hcloses : isClosing c = true
    · have hdepth := hclosing hcloses
      rw [if_pos hcloses, if_pos hcloses, if_neg (by simpa using Nat.ne_of_gt hdepth),
        isBlank_of_isClosing hcloses, Bool.not_false, Bool.or_true]
      simp only [Except.ok.injEq, mk.injEq, and_true]
      omega
    · have hseparates : ¬(decide (depth + 1 = 1) && c == ',') = true := by
        rw [Bool.and_eq_true, decide_eq_true_eq, beq_iff_eq]
        rintro ⟨hdepth, hc⟩
        exact absurd (hcomma hc) (by omega)
      rw [if_neg hcloses, if_neg hcloses, if_neg hseparates]
      rfl

/-- The way through a text that closes no more brackets than it opens and separates nothing. -/
theorem foldlM_next_inside
    (hlevel : ∀ front, front <+: text → front.countP isClosing ≤ front.countP isOpening)
    (hcomma : ∀ front, front ++ [','] <+: text → front.countP isClosing < front.countP isOpening)
    (commas : Nat) (filled : Bool) : text.foldlM next ⟨1, commas, filled⟩ =
      .ok ⟨text.countP isOpening - text.countP isClosing + 1, commas,
        filled || text.any (!Text.isBlank ·)⟩ := by
  -- The conditions are about beginnings of the text, so characters are added at its end.
  induction text using List.reverseRecOn with
  | nil => rw [List.any_nil, Bool.or_false]; rfl
  | append_singleton front c ih =>
    have hfront : ∀ other, other <+: front → other <+: front ++ [c] := fun other hother =>
      hother.trans (List.prefix_append front [c])
    have hbefore := hlevel front (hfront _ (List.prefix_refl _))
    have hclosing : isClosing c = true → 0 < front.countP isOpening - front.countP isClosing := by
      intro hcloses
      have hwhole := hlevel _ (List.prefix_refl _)
      have hopens : isOpening c = false := by
        rw [Bool.eq_false_iff]
        intro hopens
        rw [isClosing_of_isOpening hopens] at hcloses
        cases hcloses
      rw [List.countP_append, List.countP_append, List.countP_singleton, List.countP_singleton, if_pos hcloses,
        if_neg (by rw [hopens]; exact Bool.false_ne_true)] at hwhole
      omega
    have hseparator : c = ',' → 0 < front.countP isOpening - front.countP isClosing := by
      rintro rfl
      exact Nat.sub_pos_of_lt (hcomma front (List.prefix_refl _))
    have hlast : ∀ scan : ParameterScan, [c].foldlM next scan = scan.next c := fun scan => by
      rw [List.foldlM_cons]
      exact bind_pure _
    rw [List.foldlM_append, ih (fun other hother => hlevel other (hfront other hother))
      (fun other hother => hcomma other (hfront _ hother))]
    refine (hlast _).trans ?_
    rw [next_inside hclosing hseparator, List.countP_append, List.countP_append, List.any_append,
      List.any_cons, List.any_nil, Bool.or_false, Bool.or_assoc, ← Nat.sub_add_comm hbefore, Nat.sub_sub]

theorem foldlM_next_parameter (h : IsParameter text) (commas : Nat) (filled : Bool) :
    (inked text).foldlM next ⟨1, commas, filled⟩ = .ok ⟨1, commas, true⟩ := by
  obtain ⟨c, hc, hfilled⟩ := h.filled
  have hany : (arrowless text).any (!Text.isBlank ·) = true :=
    List.any_eq_true.2 ⟨c, hc, by rw [hfilled]; rfl⟩
  rw [inked, foldlM_next_filter, foldlM_next_inside h.item.level h.item.comma, h.item.closed, Nat.sub_self,
    hany, Bool.or_true]

/-- At the end of a list as many parameters have been passed as it has. -/
theorem exists_foldlM_listing (h : Listing parameters list) (commas : Nat) : ∃ scan : ParameterScan,
    (inked list).foldlM next ⟨1, commas, false⟩ = .ok scan ∧ scan.depth = 1 ∧
      scan.count = commas + parameters.length := by
  induction h generalizing commas with
  | empty hblank =>
    refine ⟨⟨1, commas, false⟩, ?_, rfl, rfl⟩
    rw [inked_of_blank hblank]
    rfl
  | last hwritten => exact ⟨_, foldlM_next_parameter hwritten commas false, rfl, rfl⟩
  | @cons parameter others text hwritten _ ih =>
    obtain ⟨scan, hscan, hdepth, hcount⟩ := ih (commas + 1)
    refine ⟨scan, ?_, hdepth, ?_⟩
    · rw [inked_append_cons _ rfl (by decide) (by decide), List.foldlM_append,
        foldlM_next_parameter hwritten]
      exact hscan
    · rw [hcount, List.length_cons]
      omega

/-- The count of a list ends where the list closes. -/
theorem counted_listing (h : Listing parameters list) (rest : List Char) :
    counted ('(' :: (inked list ++ ')' :: rest)) = parameters.length := by
  obtain ⟨scan, hscan, hdepth, hcount⟩ := exists_foldlM_listing h 0
  have hcloses : scan.next ')' = .error scan.count := if_pos hdepth
  have hlist : ('(' :: (inked list ++ ')' :: rest)).foldlM next ⟨0, 0, false⟩ = .error scan.count := by
    change (inked list ++ ')' :: rest).foldlM next ⟨1, 0, false⟩ = .error scan.count
    rw [List.foldlM_append, hscan]
    change (scan.next ')' >>= fun scan => rest.foldlM next scan) = .error scan.count
    rw [hcloses]
    rfl
  rw [counted, hlist, result, hcount, Nat.zero_add]

end ParameterScan

/-! ### The list over several lines -/

/-- A comment at the end of a line is not seen. -/
theorem inked_withoutNoise_append (h : Remark added) (hfront : Noiseless front) :
    inked (withoutNoise (front ++ added)) = inked front := by
  cases h with
  | none => rw [List.append_nil, withoutNoise_of_noiseless hfront]
  | @comment text hline =>
    rw [withoutNoise_append_cons hfront (by decide) (by decide), withoutNoise_comment hline,
      inked_append _ (by simp), inked_of_blank (List.forall_mem_singleton.2 rfl), List.append_nil]

/-- Of the lines no more is seen than of the text that has been broken into them. -/
theorem visible_of_laid (h : Laid (')' :: rest) text lines) (htext : Noiseless text) (others : List Line) :
    visible (lines ++ others) = inked text ++ ')' :: (inked (withoutNoise rest) ++ visible others) := by
  induction h with
  | @last text =>
    rw [List.singleton_append, visible_cons, withoutNoise_append_cons htext (by decide) (by decide),
      inked_append_cons _ rfl (by decide) (by decide), List.append_assoc, List.cons_append]
  | @cut front gap rest added lines hne hblank hremark _ ih =>
    have hfront : Noiseless front := htext.of_infix (List.prefix_append _ _).isInfix
    have hlater : Noiseless rest := htext.of_infix
      ((List.suffix_append gap rest).trans (List.suffix_append front _)).isInfix
    -- An arrow does not run over white space.
    have hgap : (gap ++ rest).head? ≠ some '>' := by
      rw [List.head?_append_of_ne_nil _ hne]
      intro hhead
      exact not_mem_of_forall hblank (by decide) (List.mem_of_mem_head? hhead)
    rw [List.cons_append, visible_cons, inked_withoutNoise_append hremark hfront, ih hlater,
      inked_append front hgap, inked_gap hblank, List.append_assoc]

theorem parameterCount_of_visible (hopens : '(' ∉ intro) (hlist : Listing parameters list)
    (hvisible : visible lines = inked (intro ++ '(' :: list) ++ ')' :: rest) :
    parameterCount lines = parameters.length := by
  have hopening : '(' ∉ inked intro := not_mem_inked hopens (by decide)
  rw [parameterCount_eq, hvisible, inked_append_cons _ rfl (by decide) (by decide), List.append_assoc,
    List.cons_append, dropWhile_opening hopening, ParameterScan.counted_listing hlist]

/-- The number of parameters is that of the first list in parentheses, however it is broken into lines and
whatever comments stand at the ends of these. -/
theorem parameterCount_of_laid (hopens : '(' ∉ intro) (hintro : Noiseless intro)
    (hlist : Listing parameters list) (hlaid : Laid (')' :: rest) (intro ++ '(' :: list) lines)
    (above below : List Line) :
    parameterCount ((above ++ (lines ++ below)).drop above.length) = parameters.length := by
  have htext : Noiseless (intro ++ '(' :: list) := hintro.append_cons hlist.noiseless (by decide) (by decide)
  rw [List.drop_left]
  exact parameterCount_of_visible hopens hlist (visible_of_laid hlaid htext below)

/-- Parameters on two lines, with an arrow, with brackets, with a comment and with a comma at the end. -/
theorem parameterCount_of_laid_commented :
    let list := "a: (Int, T) -> R".toList ++ ',' :: (" b: List<Int>".toList ++ ',' :: " ".toList)
    let lines := ["fun join(a: (Int, T) -> R,".toList ++ " // (first,".toList, "b: List<Int>,".toList ++ [],
      [] ++ ')' :: " = 0".toList]
    Listing ["a: (Int, T) -> R".toList, " b: List<Int>".toList] list ∧
      Laid (')' :: " = 0".toList) ("fun join".toList ++ '(' :: list) lines ∧
      parameterCount ((["@Test".toList] ++ (lines ++ [" // (".toList])).drop 1) = 2 := by
  intro list lines
  have hintro : '(' ∉ "fun join".toList ∧ Noiseless "fun join".toList := by decide +kernel
  have hlist : Listing ["a: (Int, T) -> R".toList, " b: List<Int>".toList] list :=
    .cons (by decide +kernel) (.cons (by decide +kernel) (.empty (List.all_eq_true.1 rfl)))
  have htext : "fun join".toList ++ '(' :: list = "fun join(a: (Int, T) -> R,".toList ++
      (" ".toList ++ ("b: List<Int>,".toList ++ (" ".toList ++ []))) := by decide +kernel
  have hlaid : Laid (')' :: " = 0".toList) ("fun join".toList ++ '(' :: list) lines := by
    rw [htext]
    exact .cut (by decide) (List.all_eq_true.1 rfl) (@Remark.comment " (first,".toList (by decide))
      (.cut (by decide) (List.all_eq_true.1 rfl) .none .last)
  exact ⟨hlist, hlaid, parameterCount_of_laid hintro.1 hintro.2 hlist hlaid ["@Test".toList] [" // (".toList]⟩

end KotlinAudit.Source
