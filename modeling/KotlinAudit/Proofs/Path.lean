import KotlinAudit.Path

/-! Paths and their written form. The names of a proper path are names that can stand in a directory,
and such a path can be told from its text. -/
namespace KotlinAudit

namespace Text

theorem splitAll_append {isSeparator : Char → Bool} {piece : List Char}
    (h : ∀ c ∈ piece, isSeparator c = false) (rest : List Char) {separator : Char}
    (hsep : isSeparator separator) :
    splitAll isSeparator (piece ++ separator :: rest) = piece :: splitAll isSeparator rest := by
  induction piece with
  | nil => rw [List.nil_append, splitAll, if_pos hsep]
  | cons c piece ih =>
    rw [List.cons_append, splitAll, h c List.mem_cons_self,
      ih fun d hd => h d (List.mem_cons_of_mem c hd)]
    rfl

theorem splitAll_of_free {isSeparator : Char → Bool} {piece : List Char}
    (h : ∀ c ∈ piece, isSeparator c = false) : splitAll isSeparator piece = [piece] := by
  induction piece with
  | nil => rfl
  | cons c piece ih =>
    rw [splitAll, h c List.mem_cons_self, ih fun d hd => h d (List.mem_cons_of_mem c hd)]
    rfl

end Text

namespace Path

/-- A name that can stand in a directory. -/
structure ProperName (name : String) : Prop where
  notEmpty : name ≠ ""
  noSlash : '/' ∉ name.toList
  notDot : name ≠ "."

theorem properName_iff {name : String} :
    ProperName name ↔ name ≠ "" ∧ '/' ∉ name.toList ∧ name ≠ "." :=
  ⟨fun h => ⟨h.notEmpty, h.noSlash, h.notDot⟩, fun h => ⟨h.1, h.2.1, h.2.2⟩⟩

instance (name : String) : Decidable (ProperName name) := decidable_of_iff' _ properName_iff

/-- A path whose names can stand in directories; two dots may be among them. -/
def Proper (path : Path) : Prop := ∀ name ∈ path.names, ProperName name

theorem Proper.child {path : Path} (h : path.Proper) {name : String} (hname : ProperName name) :
    (path.child name).Proper := by
  intro other hother
  rcases List.mem_append.1 hother with hold | hnew
  · exact h other hold
  · rw [List.mem_singleton.1 hnew]
    exact hname

theorem Proper.parent {path : Path} (h : path.Proper) : path.parent.Proper :=
  fun name hname => h name (List.dropLast_subset _ hname)

theorem Proper.join {path other : Path} (h : path.Proper) (hother : other.Proper) :
    (path.join other).Proper := by
  unfold Path.join
  split
  · exact hother
  · intro name hname
    rcases List.mem_append.1 hname with hfirst | hlast
    · exact h name hfirst
    · exact hother name hlast

theorem isAbsolute_join {path other : Path} (h : path.isAbsolute) : (path.join other).isAbsolute := by
  unfold Path.join
  split
  · next habsolute => exact habsolute
  · exact h

/-! ### Reading the written form -/

theorem ProperName.free {name : String} (h : ProperName name) :
    ∀ c ∈ name.toList, (c == '/') = false := by
  intro c hc
  rw [beq_eq_false_iff_ne]
  rintro rfl
  exact h.noSlash hc

theorem ProperName.toList_ne_nil {name : String} (h : ProperName name) : name.toList ≠ [] :=
  fun hnil => h.notEmpty (String.toList_eq_nil_iff.1 hnil)

/-- The names of a text are those that it was made of. -/
theorem words_intercalate {names : List String} (h : ∀ name ∈ names, ProperName name) :
    Text.words (· == '/') (['/'].intercalate (names.map String.toList)) =
      names.map String.toList := by
  induction names with
  | nil => rfl
  | cons name rest ih =>
    have hname := h name List.mem_cons_self
    have hkept : (!name.toList.isEmpty) = true := by simpa using hname.toList_ne_nil
    have hrest := ih fun other hother => h other (List.mem_cons_of_mem name hother)
    cases rest with
    | nil =>
      rw [List.map_singleton, List.intercalate_singleton, Text.words,
        Text.splitAll_of_free hname.free, List.filter_cons, if_pos hkept, List.filter_nil]
    | cons next rest =>
      rw [List.map_cons, List.map_cons, List.intercalate_cons_cons, List.append_assoc,
        List.singleton_append, Text.words, Text.splitAll_append hname.free _ (by decide),
        List.filter_cons, if_pos hkept]
      exact congrArg (name.toList :: ·) hrest

theorem words_slashes (count : Nat) (text : List Char) :
    Text.words (· == '/') (List.replicate count '/' ++ text) = Text.words (· == '/') text := by
  induction count with
  | zero => rfl
  | succ count ih => exact ih

theorem head?_intercalate_ne {names : List String} (h : ∀ name ∈ names, ProperName name) :
    (['/'].intercalate (names.map String.toList)).head? ≠ some '/' := by
  cases names with
  | nil => simp
  | cons name rest =>
    have hname := h name List.mem_cons_self
    obtain ⟨c, others, hc⟩ := List.exists_cons_of_ne_nil hname.toList_ne_nil
    have hne : c ≠ '/' := by
      rintro rfl
      exact hname.noSlash (hc ▸ List.mem_cons_self)
    cases rest <;> simp [hc, hne]

theorem takeWhile_slashes (count : Nat) {text : List Char} (h : text.head? ≠ some '/') :
    (List.replicate count '/' ++ text).takeWhile (· == '/') = List.replicate count '/' := by
  induction count with
  | zero =>
    cases text with
    | nil => rfl
    | cons c rest =>
      have hc : (c == '/') = false := by simpa using h
      rw [List.replicate_zero, List.nil_append, List.takeWhile_cons_of_neg (by simp [hc])]
  | succ count ih => exact congrArg ('/' :: ·) ih

theorem not_mem_intercalate {separator c : Char} {pieces : List (List Char)} (hc : c ≠ separator)
    (h : ∀ piece ∈ pieces, c ∉ piece) : c ∉ [separator].intercalate pieces := by
  induction pieces with
  | nil => exact List.not_mem_nil
  | cons piece rest ih =>
    rw [List.forall_mem_cons] at h
    cases rest with
    | nil =>
      rw [List.intercalate_singleton]
      exact h.1
    | cons next rest =>
      rw [List.intercalate_cons_cons]
      simp only [List.mem_append, List.mem_singleton, not_or]
      exact ⟨⟨h.1, hc⟩, ih h.2⟩

/-- A character that no name has is not written. -/
theorem not_mem_text {path : Path} {c : Char} (hslash : c ≠ '/') (hdot : c ≠ '.')
    (h : ∀ name ∈ path.names, c ∉ name.toList) : c ∉ path.text.toList := by
  unfold text
  split
  · simpa using hdot
  · simp only [String.toList_append, String.toList_ofList, String.toList_intercalate, List.mem_append,
      not_or]
    exact ⟨fun hmem => hslash (List.eq_of_mem_replicate hmem),
      not_mem_intercalate hslash (List.forall_mem_map.2 h)⟩

/-- Names behind slashes are read. Exactly two slashes are kept, and more count as one. -/
theorem ofText_slashes (count : Nat) {names : List String} (h : ∀ name ∈ names, ProperName name) :
    ofText (String.ofList (List.replicate count '/') ++ "/".intercalate names) =
      ⟨if count = 2 then 2 else min count 1, names⟩ := by
  have htext : (String.ofList (List.replicate count '/') ++ "/".intercalate names).toList =
      List.replicate count '/' ++ ['/'].intercalate (names.map String.toList) := by
    simp
  have hnames : ((names.map String.toList).map String.ofList).filter (· != ".") = names := by
    rw [List.map_map, List.filter_eq_self.2]
    · simp [Function.comp_def]
    · intro name hname
      simp only [List.mem_map, Function.comp_apply, String.ofList_toList, exists_eq_right] at hname
      simpa using (h name hname).notDot
  unfold ofText
  simp only [htext, words_slashes, words_intercalate h, hnames,
    takeWhile_slashes count (head?_intercalate_ne h), List.length_replicate]

/-- A proper path is what its written form is read as. -/
theorem ofText_text {path : Path} (h : path.Proper) (hslashes : path.slashes ≤ 2) :
    ofText path.text = path := by
  by_cases hdot : path.slashes = 0 ∧ path.names = []
  · obtain ⟨slashes, names⟩ := path
    obtain ⟨rfl, rfl⟩ := hdot
    rfl
  · rw [text, if_neg (by simpa using hdot), ofText_slashes path.slashes h]
    obtain ⟨slashes, names⟩ := path
    simp only at hslashes ⊢
    congr 1
    split <;> omega

theorem text_of_isAbsolute {path : Path} (h : path.isAbsolute) :
    path.text = String.ofList (List.replicate path.slashes '/') ++ "/".intercalate path.names := by
  have hslashes : path.slashes ≠ 0 := by simpa [isAbsolute] using h
  rw [text, if_neg (by simp [hslashes])]

theorem text_of_names {names : List String} (h : names ≠ []) :
    text ⟨0, names⟩ = "/".intercalate names := by
  rw [text, if_neg (by simp [h])]
  simp

/-- Names written behind a whole path are read as names below it. -/
theorem ofText_text_append {path : Path} {names : List String} (h : path.Proper)
    (habsolute : path.isAbsolute) (hnames : ∀ name ∈ names, ProperName name) (hne : names ≠ []) :
    ∃ slashes, slashes ≠ 0 ∧
      ofText (path.text ++ "/" ++ "/".intercalate names) = ⟨slashes, path.names ++ names⟩ := by
  have hslashes : path.slashes ≠ 0 := by simpa [isAbsolute] using habsolute
  rw [text_of_isAbsolute habsolute]
  by_cases hroot : path.names = []
  · -- without names, the slash in between is one more in front
    have htext : String.ofList (List.replicate path.slashes '/') ++ "/".intercalate path.names ++ "/" =
        String.ofList (List.replicate (path.slashes + 1) '/') := by
      rw [hroot, List.replicate_succ', String.ofList_append, String.intercalate_nil,
        String.append_empty]
    refine ⟨_, ?_, by rw [htext, ofText_slashes _ hnames, hroot, List.nil_append]⟩
    split <;> omega
  · have hall : ∀ name ∈ path.names ++ names, ProperName name :=
      List.forall_mem_append.2 ⟨h, hnames⟩
    have htext : String.ofList (List.replicate path.slashes '/') ++ "/".intercalate path.names ++ "/" ++
        "/".intercalate names = String.ofList (List.replicate path.slashes '/') ++
          "/".intercalate (path.names ++ names) := by
      rw [String.intercalate_append_of_ne_nil hroot hne]
      simp only [String.append_assoc]
    refine ⟨_, ?_, by rw [htext, ofText_slashes _ hall]⟩
    split <;> omega

/-- Two proper paths with the same written form are the same. -/
theorem text_injective {path other : Path} (h : path.Proper) (hother : other.Proper)
    (hslashes : path.slashes ≤ 2) (hothers : other.slashes ≤ 2) (htext : path.text = other.text) :
    path = other := by
  rw [← ofText_text h hslashes, htext, ofText_text hother hothers]

end Path
end KotlinAudit
