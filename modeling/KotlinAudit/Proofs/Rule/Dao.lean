import KotlinAudit.Proofs.Rule.Placement

/-! Which function an annotation of a data access object is taken to be about. It is the first one within reach
below that has no modifiers but two, no type parameters and no receiver. A function in another form is passed over,
and so is one on the line of the annotation, up to the function of the next annotation. -/
namespace KotlinAudit.Rule.Database

open Source (IsName Stands StandsFirst functionHeader startsWith)
open Text (Line)

/-- Annotations of functions that read or write. -/
def annotations : List String := "@Query" :: mutations

/-- The line with an index starts with an annotation. -/
def Marked (lines : List Line) (mark : Nat) : Prop :=
  ∃ line, lines[mark]? = some line ∧ ∃ sign ∈ annotations, startsWith sign line = true

/-- A word with blanks behind it, or nothing. -/
def MayLead (word : String) (text : List Char) : Prop :=
  text = [] ∨ ∃ gap, text = word.toList ++ gap ∧ gap ≠ [] ∧ ∀ c ∈ gap, Text.isBlank c = true

/-- A line that starts a function without modifiers other than `override` and `suspend`, in this order, without
type parameters and without a receiver. -/
inductive Simple : Line → Prop
  | line {indent overriding suspending gap name space : List Char}
    (indent_blank : ∀ c ∈ indent, Text.isBlank c = true) (override_leads : MayLead "override" overriding)
    (suspend_leads : MayLead "suspend" suspending) (gap_ne : gap ≠ [])
    (gap_blank : ∀ c ∈ gap, Text.isBlank c = true) (name_spelled : IsName name)
    (space_blank : ∀ c ∈ space, Text.isBlank c = true) (rest : List Char) :
    Simple (indent ++ (overriding ++ (suspending ++ ("fun".toList ++ (gap ++ (name ++ (space ++ '(' :: rest)))))))

/-- The line with an index starts a simple function. -/
def Known (lines : List Line) (index : Nat) : Prop := ∃ line, lines[index]? = some line ∧ Simple line

/-- The line with an index declares a function, in whatever form. -/
def Declares (lines : List Line) (index : Nat) : Prop := Stands functionHeader lines index

/-- The first simple function below a line, within reach, is at an index. -/
structure Pairs (lines : List Line) (mark index : Nat) : Prop where
  lt : mark < index
  near : index ≤ mark + functionReach
  known : Known lines index
  first : ∀ between, mark < between → between < index → ¬Known lines between

/-- The first function from a line on, in whatever form, is at an index. -/
structure Owns (lines : List Line) (mark index : Nat) : Prop where
  le : mark ≤ index
  declares : Declares lines index
  first : ∀ between, mark ≤ between → between < index → ¬Declares lines between

/-- The function that is found below a line is at an index. -/
def Finds (lines : List Line) (mark index : Nat) : Prop :=
  ∃ function, nextFunction lines mark = some function ∧ function.index = index

variable {lines : List Line} {line : Line} {mark index : Nat}

/-! ### The form of functions -/

section Form

open Pattern

theorem mayLead_iff {word : String} {text : List Char} :
    (Pattern.optional (all [Pattern.text word, oneOrMore blank])).spells text ↔ MayLead word text := by
  rw [spells_optional_iff, MayLead]
  refine or_congr_right ⟨?_, ?_⟩
  · rintro ⟨front, gap, rfl, hfront, hgap⟩
    obtain rfl := spells_text_iff.1 hfront
    exact ⟨gap, rfl, spells_oneOrMore_iff.1 hgap⟩
  · rintro ⟨gap, rfl, hgap⟩
    exact ⟨_, gap, rfl, spells_text_iff.2 rfl, spells_oneOrMore_iff.2 hgap⟩

/-- The pattern accepts simple functions. -/
theorem matchesStart_daoFunction_iff : daoFunction.matchesStart line = true ↔ Simple line := by
  refine Iff.trans (matchesStart_iff_spells (by decide) (by decide)) ?_
  constructor
  · rintro ⟨_, ⟨indent, _, rfl, hindent, overriding, _, rfl, hoverriding, suspending, _, rfl, hsuspending,
      _, _, rfl, hword, gap, _, rfl, hgap, name, _, rfl, hname, space, _, rfl, hspace, c, rfl, hc⟩, rest, rfl⟩
    obtain rfl := spells_text_iff.1 hword
    obtain rfl := beq_iff_eq.1 hc
    obtain ⟨hgapNe, hgapBlank⟩ := spells_oneOrMore_iff.1 hgap
    have hline := Simple.line (spells_many_iff.1 hindent) (mayLead_iff.1 hoverriding) (mayLead_iff.1 hsuspending)
      hgapNe hgapBlank (Source.isName_of_language (language_of_spells rfl hname)) (spells_many_iff.1 hspace) rest
    simpa only [List.append_assoc, List.singleton_append] using hline
  · rintro ⟨hindent, hoverriding, hsuspending, hne, hgap, hname, hspace, rest⟩
    refine ⟨_, ⟨_, _, rfl, spells_many_iff.2 hindent, _, _, rfl, mayLead_iff.2 hoverriding, _, _, rfl,
      mayLead_iff.2 hsuspending, _, _, rfl, spells_text_iff.2 rfl, _, _, rfl, spells_oneOrMore_iff.2 ⟨hne, hgap⟩,
      _, _, rfl, spells_oneOrMore_iff.2 ⟨hname.ne, hname.word⟩, _, _, rfl, spells_many_iff.2 hspace, '(', rfl, rfl⟩,
      rest, ?_⟩
    simp only [List.append_assoc, List.singleton_append]

theorem spells_modifierList {word : String} {text : List Char} (hword : word.toList ≠ [])
    (hsmall : (word.toList.all fun c => 'a' ≤ c && c ≤ 'z') = true) (h : MayLead word text) :
    Source.modifierList.spells text := by
  rcases h with rfl | ⟨gap, rfl, hgap⟩
  · exact spells_many_nil
  · exact spells_many_of_spells ⟨_, gap, rfl, spells_oneOrMore_iff.2 ⟨hword, List.all_eq_true.1 hsmall⟩,
      spells_oneOrMore_iff.2 hgap⟩

/-- The start of a simple function is the header of a function. -/
theorem Simple.matchesStart (h : Simple line) : functionHeader.matchesStart line = true := by
  refine (matchesStart_iff_spells (by decide) (by decide)).2 ?_
  obtain ⟨hindent, hoverriding, hsuspending, hne, hgap, hname, hspace, rest⟩ := h
  have hmodifiers := spells_many_append (spells_modifierList (by decide) (by decide) hoverriding)
    (spells_modifierList (by decide) (by decide) hsuspending)
  refine ⟨_, ⟨_, _, rfl, spells_many_iff.2 hindent, [], _, rfl, spells_many_nil, _, _, rfl, hmodifiers, _, _, rfl,
    spells_text_iff.2 rfl, _, _, rfl, spells_oneOrMore_iff.2 ⟨hne, hgap⟩, [], _, rfl, spells_optional_iff.2 (.inl rfl),
    [], _, rfl, spells_optional_iff.2 (.inl rfl), _, _, rfl, spells_oneOrMore_iff.2 ⟨hname.ne, hname.word⟩, _, _, rfl,
    spells_many_iff.2 hspace, '(', rfl, rfl⟩, rest, ?_⟩
  simp only [List.append_assoc, List.singleton_append, List.nil_append]

end Form

theorem stands_daoFunction_iff : Stands daoFunction lines index ↔ Known lines index :=
  exists_congr fun _ => and_congr_right fun _ => matchesStart_daoFunction_iff

theorem Known.declares (h : Known lines index) : Declares lines index := by
  obtain ⟨line, hline, hsimple⟩ := h
  exact ⟨line, hline, hsimple.matchesStart⟩

/-! ### The function below an annotation -/

theorem nextFunction_eq (lines : List Line) (mark : Nat) : nextFunction lines mark =
    ((lines.zipIdx.drop (mark + 1)).take functionReach).findSome? fun item =>
      (daoFunction.matchStart? item.1).map (DaoFunction.mk item.2) := by
  have hreach := Source.reach?_natCast lines (mark + 1)
  rw [← List.map_drop] at hreach
  rw [nextFunction, nextFunction?, show (mark : Int) + 1 = (mark + 1 : Nat) from rfl, hreach, Option.map_some,
    Option.join_some, ← List.map_take, List.findSome?_map]
  rfl

theorem pairs_iff : Pairs lines mark index ↔ StandsFirst daoFunction lines (mark + 1) functionReach index := by
  constructor
  · intro h
    refine ⟨h.lt, by have := h.near; omega, stands_daoFunction_iff.2 h.known, fun between hle hlt hstands => ?_⟩
    exact h.first between hle hlt (stands_daoFunction_iff.1 hstands)
  · intro h
    refine ⟨h.le, by have := h.near; omega, stands_daoFunction_iff.1 h.stands, fun between hle hlt hknown => ?_⟩
    exact h.first between hle hlt (stands_daoFunction_iff.2 hknown)

theorem pairs_of_nextFunction {function : DaoFunction} (h : nextFunction lines mark = some function) :
    ∃ index : Nat, function.index = index ∧ Pairs lines mark index := by
  rw [nextFunction_eq] at h
  obtain ⟨index, header, hfirst, rfl⟩ := Source.exists_of_findSome?_window (fun index => DaoFunction.mk index) h
  exact ⟨index, rfl, pairs_iff.2 hfirst⟩

/-- What is found below a line is the first simple function within reach. -/
theorem finds_iff : Finds lines mark index ↔ Pairs lines mark index := by
  constructor
  · rintro ⟨function, hfunction, hindex⟩
    obtain ⟨other, hother, hpairs⟩ := pairs_of_nextFunction hfunction
    obtain rfl : other = index := Int.ofNat.inj (hother.symm.trans hindex)
    exact hpairs
  · intro h
    obtain ⟨header, hfound⟩ := Source.exists_findSome?_window (fun index => DaoFunction.mk index) (pairs_iff.1 h)
    exact ⟨⟨index, header⟩, (nextFunction_eq lines mark).trans hfound, rfl⟩

/-- Another annotation stands in between exactly if the same function is found for a later one. -/
theorem Pairs.exists_between_iff (h : Pairs lines mark index) :
    (∃ between, mark < between ∧ between < index ∧ Marked lines between) ↔
      ∃ other, mark < other ∧ Marked lines other ∧ Pairs lines other index := by
  refine exists_congr fun other => and_congr_right fun hlt => and_comm.trans (and_congr_right fun _ => ?_)
  refine ⟨fun hbefore => ⟨hbefore, ?_, h.known, fun between hle => h.first between (hlt.trans hle)⟩, Pairs.lt⟩
  have := h.near
  omega

/-- The function is not the next one exactly if the annotation has one on its own line or a function that is not
simple is passed over. -/
theorem Pairs.not_owns_iff (h : Pairs lines mark index) : ¬Owns lines mark index ↔
    ∃ declared, mark ≤ declared ∧ declared < index ∧ Declares lines declared ∧
      (declared = mark ∨ ¬Known lines declared) := by
  constructor
  · intro hnot
    have hearlier : ¬∀ between, mark ≤ between → between < index → ¬Declares lines between :=
      fun hfirst => hnot ⟨h.lt.le, h.known.declares, hfirst⟩
    simp only [not_forall, not_not] at hearlier
    obtain ⟨declared, hle, hlt, hdeclares⟩ := hearlier
    refine ⟨declared, hle, hlt, hdeclares, ?_⟩
    rcases Nat.lt_or_eq_of_le hle with hbelow | rfl
    · exact .inr (h.first declared hbelow hlt)
    · exact .inl rfl
  · rintro ⟨declared, hle, hlt, hdeclares, -⟩ howns
    exact howns.first declared hle hlt hdeclares

/-! ### Blame -/

/-- What is said about functions that block. -/
def blockingTitles : List String :=
  ["DAO Query Function Should Return Flow", "DAO Mutation Function Should Be Suspend"]

/-- What is said about a query that does not use the arguments of its function. -/
def unboundTitle : String := "Query Should Use Parameterized Queries"

/-- Something is said about the line with an index. -/
def Reported (findings : List Finding) (index : Nat) (title : String) : Prop :=
  ∃ finding : Finding, finding ∈ findings ∧ finding.line = index + 1 ∧ finding.title = title

/-- The line with an index belongs to the block of a data access object. -/
def Inside (lines : List Line) (mark : Nat) : Prop :=
  ∃ dao line start, lines[dao]? = some line ∧ startsWith "@Dao" line = true ∧
    typeLine? lines dao = some start ∧ start < mark ∧ mark ≤ Source.blockEnd lines start

/-- For an annotation inside a data access object a function is found at an index that is not suspend and, if the
annotation is that of a query, returns no flow. -/
def Accuses (lines : List Line) (mark index : Nat) : Prop :=
  Inside lines mark ∧ ∃ line function, lines[mark]? = some line ∧ (∃ sign ∈ annotations, startsWith sign line = true) ∧
    nextFunction lines mark = some function ∧ function.index = index ∧ function.isSuspend = false ∧
    (startsWith "@Query" line = true → returnsFlow (lines[index]?.getD []) = false)

/-- What the parentheses of a query hold. -/
def queryText (lines : List Line) (mark : Nat) (line : Line) : List Char :=
  Source.parenthesized lines mark ((Text.find? "@Query".toList line).getD 0)

/-- For a query that is not put together from text and binds nothing a function with arguments is found at an
index. -/
def Ignores (lines : List Line) (mark index : Nat) : Prop :=
  ∃ line function, lines[mark]? = some line ∧ startsWith "@Query" line = true ∧
    nextFunction lines mark = some function ∧ function.index = index ∧
    concatenation.occursIn (queryText lines mark line) = false ∧
    bindParameter.occursIn (queryText lines mark line) = false ∧
    Text.trim (Source.parenthesized lines index (function.header.position - 1)) ≠ []

variable {draft : Draft} {function : DaoFunction} {isQuery : Bool}

theorem Accuses.pairs (h : Accuses lines mark index) : Pairs lines mark index := by
  obtain ⟨-, -, function, -, -, hfunction, hindex, -⟩ := h
  exact finds_iff.1 ⟨function, hfunction, hindex⟩

theorem of_daoDraft? (h : daoDraft? lines isQuery function = some draft) :
    draft.line = function.index.toNat + 1 ∧ draft.title ∈ blockingTitles := by
  unfold daoDraft? at h
  dsimp only at h
  split at h
  · cases h
  split at h
  · cases h
    exact ⟨rfl, List.mem_cons_of_mem _ List.mem_cons_self⟩
  split at h
  · cases h
  · cases h
    exact ⟨rfl, List.mem_cons_self⟩

theorem exists_daoDraft?_iff : (∃ draft, daoDraft? lines isQuery function = some draft) ↔
    function.isSuspend = false ∧
      (isQuery = true → returnsFlow (lines[function.index.toNat]?.getD []) = false) := by
  have hflow : (daoDraft? lines isQuery function).isSome = true ↔ function.isSuspend = false ∧
      (isQuery = true → returnsFlow (lines[function.index.toNat]?.getD []) = false) := by
    unfold daoDraft?
    change (if function.isSuspend = true then none
      else if (!isQuery) = true then some (mutationSuspend _ _ _)
      else if returnsFlow (lines[function.index.toNat]?.getD []) = true then none
      else some (queryFlow _ _ _) : Option Draft).isSome = true ↔ _
    cases function.isSuspend <;> cases isQuery <;> simp
  rw [← Option.isSome_iff_exists, hflow]

theorem isAnnotated_iff : (startsWith "@Query" line || mutations.any (startsWith · line)) = true ↔
    ∃ sign ∈ annotations, startsWith sign line = true := by
  rw [annotations, List.exists_mem_cons_iff, Bool.or_eq_true, List.any_eq_true]

theorem mem_daoDrafts_iff {dao : Nat} : draft ∈ daoDrafts lines dao ↔ ∃ start mark line function,
    typeLine? lines dao = some start ∧ start < mark ∧ mark ≤ Source.blockEnd lines start ∧
    lines[mark]? = some line ∧ (∃ sign ∈ annotations, startsWith sign line = true) ∧
    nextFunction lines mark = some function ∧
    daoDraft? lines (startsWith "@Query" line) function = some draft := by
  unfold daoDrafts
  constructor
  · intro h
    split at h
    · cases h
    · next start hstart =>
      obtain ⟨⟨mark, line⟩, hbody, hdraft⟩ := List.mem_filterMap.1 h
      obtain ⟨hlt, hle, hline⟩ := Source.mem_blockBody_iff.1 hbody
      dsimp only at hdraft
      split at hdraft
      · next hannotated =>
        obtain ⟨function, hfunction, hdraft⟩ := Option.bind_eq_some_iff.1 hdraft
        exact ⟨start, mark, line, function, hstart, hlt, hle, hline, isAnnotated_iff.1 hannotated, hfunction, hdraft⟩
      · cases hdraft
  · rintro ⟨start, mark, line, function, hstart, hlt, hle, hline, hannotated, hfunction, hdraft⟩
    rw [hstart]
    refine List.mem_filterMap.2 ⟨(mark, line), Source.mem_blockBody_iff.2 ⟨hlt, hle, hline⟩, ?_⟩
    dsimp only
    rw [if_pos (isAnnotated_iff.2 hannotated), hfunction, Option.bind_some, hdraft]

theorem not_blocking_of_mem_queryDrafts {dao : Nat} (h : draft ∈ queryDrafts lines dao line) :
    draft.title ∉ blockingTitles := by
  unfold queryDrafts at h
  dsimp only at h
  split at h
  · obtain rfl := List.mem_singleton.1 h
    exact (show "SQL Injection Risk: String Concatenation in Query" ∉ blockingTitles by decide)
  split at h
  · cases h
  split at h
  · obtain rfl := List.mem_singleton.1 h
    exact (show "Query Should Use Parameterized Queries" ∉ blockingTitles by decide)
  · cases h

theorem not_comment_of_startsWith {sign : String} (hlength : 2 ≤ sign.toList.length)
    (hsign : ¬['/', '/'] <+: sign.toList) (h : startsWith sign line = true) : ¬startsWith "//" line = true :=
  fun hcomment => hsign (List.prefix_of_prefix_length_le (List.isPrefixOf_iff_prefix.1 hcomment)
    (List.isPrefixOf_iff_prefix.1 h) hlength)

/-- Of what is said about a line, that functions block is said about a data access object. -/
theorem mem_lineDrafts_iff {dao : Nat} : draft ∈ lineDrafts lines dao line ∧ draft.title ∈ blockingTitles ↔
    startsWith "@Dao" line = true ∧ draft ∈ daoDrafts lines dao := by
  unfold lineDrafts
  constructor
  · rintro ⟨h, htitle⟩
    split at h
    · cases h
    rcases List.mem_append.1 h with h | h
    · rcases List.mem_append.1 h with h | h
      · split at h
        · next hdao => exact ⟨hdao, h⟩
        · cases h
      · split at h
        · exact absurd htitle (not_blocking_of_mem_queryDrafts h)
        · cases h
    · split at h
      · cases h
      split at h
      · cases h
      · obtain rfl := List.mem_singleton.1 h
        exact absurd htitle
          (show "Foreign Key Should Use CASCADE for onDelete" ∉ blockingTitles by decide)
  · rintro ⟨hdao, h⟩
    obtain ⟨_, _, _, _, _, _, _, _, _, _, hdraft⟩ := mem_daoDrafts_iff.1 h
    rw [if_neg (not_comment_of_startsWith (by decide) (by decide) hdao), if_pos hdao]
    exact ⟨List.mem_append_left _ (List.mem_append_left _ h), (of_daoDraft? hdraft).2⟩

theorem Ignores.pairs (h : Ignores lines mark index) : Pairs lines mark index := by
  obtain ⟨-, function, -, -, hfunction, hindex, -⟩ := h
  exact finds_iff.1 ⟨function, hfunction, hindex⟩

theorem line_of_mem_queryDrafts (h : draft ∈ queryDrafts lines mark line) : draft.line = mark + 1 := by
  unfold queryDrafts at h
  dsimp only at h
  split at h
  · obtain rfl := List.mem_singleton.1 h
    rfl
  split at h
  · cases h
  split at h
  · obtain rfl := List.mem_singleton.1 h
    rfl
  · cases h

theorem exists_unbound_iff (hline : lines[mark]? = some line) (hquery : startsWith "@Query" line = true) :
    (∃ draft ∈ queryDrafts lines mark line, draft.title = unboundTitle) ↔ ∃ index, Ignores lines mark index := by
  unfold queryDrafts
  dsimp only
  constructor
  · rintro ⟨draft, hdraft, htitle⟩
    split at hdraft
    · obtain rfl := List.mem_singleton.1 hdraft
      exact absurd htitle
        (show ¬"SQL Injection Risk: String Concatenation in Query" = unboundTitle by decide)
    next hplain =>
    split at hdraft
    · cases hdraft
    next function hfunction =>
    split at hdraft
    · next hunbound =>
      obtain ⟨hfilled, hbinds⟩ := Bool.and_eq_true_iff.1 hunbound
      obtain ⟨index, hindex, -⟩ := pairs_of_nextFunction hfunction
      rw [hindex, Int.toNat_natCast] at hfilled
      rw [Bool.not_eq_true'] at hbinds
      refine ⟨index, line, function, hline, hquery, hfunction, hindex, Bool.eq_false_iff.2 hplain,
        hbinds, fun hempty => ?_⟩
      rw [hempty] at hfilled
      cases hfilled
    · cases hdraft
  · rintro ⟨index, same, function, hsame, -, hfunction, hindex, hplain, hbinds, hfilled⟩
    obtain rfl := Option.some.inj (hline.symm.trans hsame)
    rw [queryText] at hplain hbinds
    rw [hplain, hfunction, if_neg Bool.false_ne_true]
    dsimp only
    rw [hindex, Int.toNat_natCast, hbinds, if_pos (by simpa using hfilled)]
    exact ⟨_, List.mem_cons_self, rfl⟩

/-- Of what is said about a line, that a query is unbound is said about this query. -/
theorem mem_lineDrafts_unbound_iff : draft ∈ lineDrafts lines mark line ∧ draft.title = unboundTitle ↔
    startsWith "@Query" line = true ∧ draft ∈ queryDrafts lines mark line ∧ draft.title = unboundTitle := by
  unfold lineDrafts
  constructor
  · rintro ⟨h, htitle⟩
    split at h
    · cases h
    rcases List.mem_append.1 h with h | h
    · rcases List.mem_append.1 h with h | h
      · split at h
        · obtain ⟨_, _, _, _, _, _, _, _, _, _, hdraft⟩ := mem_daoDrafts_iff.1 h
          exact absurd (htitle ▸ (of_daoDraft? hdraft).2) (by decide)
        · cases h
      · split at h
        · next hquery => exact ⟨hquery, h, htitle⟩
        · cases h
    · split at h
      · cases h
      split at h
      · cases h
      · obtain rfl := List.mem_singleton.1 h
        exact absurd htitle (show ¬"Foreign Key Should Use CASCADE for onDelete" = unboundTitle by decide)
  · rintro ⟨hquery, h, htitle⟩
    rw [if_neg (not_comment_of_startsWith (by decide) (by decide) hquery), if_pos hquery]
    exact ⟨List.mem_append_left _ (List.mem_append_right _ h), htitle⟩

/-- A query is said to use no arguments exactly if it ignores those of the function that is found for it. -/
theorem reported_unbound_iff {text : List Char} (analyzer : String) (category : Category) (file : SourceFile) :
    Reported ((rules text).map (·.finding analyzer category file)) mark unboundTitle ↔
      ∃ index, Ignores (Text.lines text) mark index := by
  rw [Reported, exists_finding_iff]
  constructor
  · rintro ⟨draft, hdraft, hnumber, htitle⟩
    obtain ⟨place, line, hline, hdraft⟩ := exists_of_mem_flatMap_zipIdx hdraft
    obtain ⟨hquery, hdraft, -⟩ := mem_lineDrafts_unbound_iff.1 ⟨hdraft, htitle⟩
    obtain rfl : place = mark := Nat.succ.inj ((line_of_mem_queryDrafts hdraft).symm.trans hnumber)
    exact (exists_unbound_iff hline hquery).1 ⟨draft, hdraft, htitle⟩
  · rintro ⟨index, hignores⟩
    obtain ⟨line, -, hline, hquery, -⟩ := id hignores
    obtain ⟨draft, hdraft, htitle⟩ := (exists_unbound_iff hline hquery).2 ⟨index, hignores⟩
    refine ⟨draft, List.mem_flatMap.2 ⟨(line, mark), List.mem_zipIdx_iff_getElem?.2 hline, ?_⟩,
      line_of_mem_queryDrafts hdraft, htitle⟩
    exact (mem_lineDrafts_unbound_iff.2 ⟨hquery, hdraft, htitle⟩).1

/-- A function is said to block exactly if an annotation accuses it. -/
theorem reported_blocking_iff {text : List Char} (analyzer : String) (category : Category) (file : SourceFile) :
    (∃ title ∈ blockingTitles, Reported ((rules text).map (·.finding analyzer category file)) index title) ↔
      ∃ mark, Accuses (Text.lines text) mark index := by
  simp only [Reported, exists_finding_iff]
  constructor
  · rintro ⟨_, htitle, draft, hdraft, hnumber, rfl⟩
    obtain ⟨dao, header, hheader, hdraft⟩ := exists_of_mem_flatMap_zipIdx hdraft
    obtain ⟨hdao, hdraft⟩ := mem_lineDrafts_iff.1 ⟨hdraft, htitle⟩
    obtain ⟨start, mark, line, function, hstart, hlt, hle, hline, hannotated, hfunction, hdraft⟩ :=
      mem_daoDrafts_iff.1 hdraft
    obtain ⟨place, hplace, -⟩ := pairs_of_nextFunction hfunction
    obtain ⟨hblocks, hflow⟩ := exists_daoDraft?_iff.1 ⟨draft, hdraft⟩
    have hindex := (of_daoDraft? hdraft).1
    rw [hplace, Int.toNat_natCast, hnumber] at hindex
    obtain rfl := Nat.succ.inj hindex
    rw [hplace, Int.toNat_natCast] at hflow
    exact ⟨mark, ⟨dao, header, start, hheader, hdao, hstart, hlt, hle⟩, line, function, hline, hannotated, hfunction,
      hplace, hblocks, hflow⟩
  · rintro ⟨mark, ⟨dao, header, start, hheader, hdao, hstart, hlt, hle⟩, line, function, hline, hannotated, hfunction,
      hplace, hblocks, hflow⟩
    rw [← Int.toNat_natCast index, ← hplace] at hflow
    obtain ⟨draft, hdraft⟩ := exists_daoDraft?_iff.2 ⟨hblocks, hflow⟩
    obtain ⟨hnumber, htitle⟩ := of_daoDraft? hdraft
    rw [hplace, Int.toNat_natCast] at hnumber
    refine ⟨_, htitle, draft,
      List.mem_flatMap.2 ⟨(header, dao), List.mem_zipIdx_iff_getElem?.2 hheader, ?_⟩, hnumber, rfl⟩
    exact (mem_lineDrafts_iff.2 ⟨hdao, mem_daoDrafts_iff.2 ⟨start, mark, line, function, hstart, hlt, hle, hline,
      hannotated, hfunction, hdraft⟩⟩).1

/-- Below a line the first simple function within reach is found. Another annotation stands in between exactly if
the same function is found for a later annotation as well. What is said about functions and queries is said about
the annotation and the function found for it; this one is not the next function exactly if the annotation has a
function on its own line or one that is not simple is passed over on the way. -/
theorem blamed_for_other_iff (isFile : FileTest) (file : SourceFile) :
    (∀ lines mark index, (Finds lines mark index ↔ Pairs lines mark index) ∧
      (Finds lines mark index ∧ (∃ between, mark < between ∧ between < index ∧ Marked lines between) ↔
        Pairs lines mark index ∧ ∃ other, mark < other ∧ Marked lines other ∧ Pairs lines other index)) ∧
    ∀ text, ∃ findings, analyzer.analyze isFile file text = .ok findings ∧
      (∀ index, (∃ title ∈ blockingTitles, Reported findings index title) ↔
        ∃ mark, Accuses (Text.lines text) mark index) ∧
      (∀ mark, Reported findings mark unboundTitle ↔ ∃ index, Ignores (Text.lines text) mark index) ∧
      ∀ mark index, (Accuses (Text.lines text) mark index ∨ Ignores (Text.lines text) mark index) ∧
          ¬Owns (Text.lines text) mark index ↔
        (Accuses (Text.lines text) mark index ∨ Ignores (Text.lines text) mark index) ∧
          ∃ declared, mark ≤ declared ∧ declared < index ∧ Declares (Text.lines text) declared ∧
            (declared = mark ∨ ¬Known (Text.lines text) declared) := by
  refine ⟨fun lines mark index => ⟨finds_iff, ?_⟩, fun text => ⟨_, rfl, fun _ => reported_blocking_iff _ _ _,
    fun _ => reported_unbound_iff _ _ _, fun mark index => and_congr_right fun h => ?_⟩⟩
  · rw [finds_iff]
    exact and_congr_right fun h => h.exists_between_iff
  · exact (h.elim Accuses.pairs Ignores.pairs).not_owns_iff

/-- The function of the query is abstract, so the query is taken to be about the function that inserts. -/
example : (nextFunction ["@Query(\"SELECT * FROM meals\")".toList, "abstract fun observeAll(): Flow<Meal>".toList,
    "@Insert".toList, "fun insert(meal: Meal)".toList] 0).map (·.index) = some 3 := by decide +kernel

end KotlinAudit.Rule.Database
